import DeviceGateway.Decimal.Digits
import DeviceGateway.Text.Utf8
/-!
Base64 with the standard alphabet. Every octet string has exactly one written form, padded to a
multiple of four symbols; `decode?` accepts that form alone and says where any other text departs
from it.
-/
namespace DeviceGateway.Base64

/-- The symbol of a six-bit group. -/
def symbol (n : Nat) : UInt8 :=
  if n < 26 then .ofNat (65 + n)
  else if n < 52 then .ofNat (71 + n)
  else if n < 62 then .ofNat (n - 4)
  else if n = 62 then 43
  else 47

def group? (b : UInt8) : Option Nat :=
  let n := b.toNat
  if 65 ≤ n ∧ n ≤ 90 then some (n - 65)
  else if 97 ≤ n ∧ n ≤ 122 then some (n - 71)
  else if 48 ≤ n ∧ n ≤ 57 then some (n + 4)
  else if n = 43 then some 62
  else if n = 47 then some 63
  else none

def pad : UInt8 := 61

def encode : Bytes → Bytes
  | [] => []
  | [a] => [symbol (a.toNat / 4), symbol (a.toNat % 4 * 16), pad, pad]
  | [a, b] =>
    [symbol (a.toNat / 4), symbol (a.toNat % 4 * 16 + b.toNat / 16), symbol (b.toNat % 16 * 4), pad]
  | a :: b :: c :: rest =>
    symbol (a.toNat / 4) :: symbol (a.toNat % 4 * 16 + b.toNat / 16) ::
      symbol (b.toNat % 16 * 4 + c.toNat / 64) :: symbol (c.toNat % 64) :: encode rest

def text (octets : Bytes) : String :=
  .ofList ((encode octets).map fun b => .ofNat b.toNat)

/-- Where a text departs from the written form. -/
inductive Fault where
  | symbol (octet : UInt8) (offset : Nat)
  | length (count : Nat)
  | padding
  | lastSymbol (octet : UInt8) (offset : Nat)
deriving DecidableEq, Repr

/-- An octet by its number, and where it stands. -/
def located (octet : UInt8) (offset : Nat) : String :=
  .ofList (Decimal.write octet.toNat) ++ ", offset " ++ .ofList (Decimal.write offset) ++ "."

def Fault.message : Fault → String
  | .symbol octet offset => "Invalid symbol " ++ located octet offset
  | .length count => "Invalid input length: " ++ .ofList (Decimal.write count)
  | .padding => "Invalid padding"
  | .lastSymbol octet offset => "Invalid last symbol " ++ located octet offset

/-- The groups of the symbols before the first padding, and how many padding symbols end the text.
`offset` is the place of the next octet, `place` counts it within the last quad. -/
def lastGroups (offset place : Nat) : Bytes → Except Fault (List Nat × Nat)
  | [] => .ok ([], 0)
  | b :: rest =>
    if b = pad then
      if place < 2 then .error (.symbol b offset)
      else if rest.all (· = pad) then .ok ([], rest.length + 1)
      else .error (.symbol pad offset)
    else match group? b with
      | none => .error (.symbol b offset)
      | some g => (lastGroups (offset + 1) (place + 1) rest).map fun (gs, pads) => (g :: gs, pads)

/-- The octets of the last quad, which may be short of one or two of them. -/
def lastOctets (offset : Nat) (quad : Bytes) : Except Fault Bytes := do
  let (groups, pads) ← lastGroups offset 0 quad
  let last := (quad[groups.length - 1]?).getD 0
  match groups with
  | [] | [_] => throw (.length (offset + groups.length))
  | [a, b] =>
    if pads ≠ 2 then throw .padding
    if b % 16 ≠ 0 then throw (.lastSymbol last (offset + 1))
    return [.ofNat (a * 4 + b / 16)]
  | [a, b, c] =>
    if pads ≠ 1 then throw .padding
    if c % 4 ≠ 0 then throw (.lastSymbol last (offset + 2))
    return [.ofNat (a * 4 + b / 16), .ofNat (b % 16 * 16 + c / 4)]
  | a :: b :: c :: d :: _ =>
    return [.ofNat (a * 4 + b / 16), .ofNat (b % 16 * 16 + c / 4), .ofNat (c % 4 * 64 + d)]

/-- A group at a place where padding may not stand. -/
def groupAt (b : UInt8) (offset : Nat) : Except Fault Nat :=
  match group? b with
  | some g => .ok g
  | none => .error (.symbol b offset)

/-- Reads quads from `offset` on, up to the last one. -/
def octetsFrom (offset : Nat) : Bytes → Except Fault Bytes
  | a :: b :: c :: d :: e :: rest => do
    let a ← groupAt a offset
    let b ← groupAt b (offset + 1)
    let c ← groupAt c (offset + 2)
    let d ← groupAt d (offset + 3)
    let octets ← octetsFrom (offset + 4) (e :: rest)
    return .ofNat (a * 4 + b / 16) :: .ofNat (b % 16 * 16 + c / 4) :: .ofNat (c % 4 * 64 + d) ::
      octets
  | [] => .ok []
  | quad => lastOctets offset quad

/-- A lone last octet that is no symbol is found before anything else. -/
def loneOctet? (input : Bytes) : Option Fault :=
  if input.length % 4 = 1 then
    match input.getLast? with
    | some b => if b = pad ∨ (group? b).isSome then none else some (.symbol b (input.length - 1))
    | none => none
  else none

def decode? (input : Bytes) : Except Fault Bytes :=
  match loneOctet? input with
  | some fault => .error fault
  | none => octetsFrom 0 input

end DeviceGateway.Base64
