import DeviceGateway.Json.Value
import DeviceGateway.Text.Utf8
/-!
Numbers as JSON spells them. A spelling without fraction and exponent is whole if it fits 64 bits.
Any other is a double: the digits that fit 64 bits, scaled by one power of ten, each step rounded to
nearest.
-/
namespace DeviceGateway.Json

open Utf8 (Piece)

/-- Takes digits as long as the value stays within 64 bits; also the number of digits taken. -/
def takeDigits (n : Nat) : List Nat → Nat × Nat
  | [] => (n, 0)
  | d :: rest =>
    if n * 10 + d < 0x10000000000000000 then
      let (m, used) := takeDigits (n * 10 + d) rest
      (m, used + 1)
    else (n, 0)

/-- `m * 10 ^ e` as a double, unless it is too large. -/
def scale? (m : Nat) (e : Int) : Option Float :=
  let f := Float.ofNat m
  let ten (k : Nat) : Float := Float.ofScientific 1 false k
  if m = 0 then some f
  else if 308 < e then none
  else if 0 ≤ e then
    let g := f * ten e.toNat
    if g.isInf then none else some g
  else if -308 ≤ e then some (f / ten (-e).toNat)
  else if -616 ≤ e then some (f / ten 308 / ten (-e - 308).toNat)
  else some (Float.ofNat 0)

structure Spelling where
  negative : Bool
  integer : List Nat
  fraction : List Nat
  exponent : Option Int

/-- The number that a spelling denotes; none if its magnitude is beyond the doubles. -/
def Spelling.number? (s : Spelling) : Option Number :=
  let (n, used) := takeDigits 0 s.integer
  let dropped := s.integer.length - used
  let real (m : Nat) (e : Int) : Option Number :=
    (scale? m e).map fun f => .real (if s.negative then -f else f).toBits
  if s.fraction.isEmpty ∧ s.exponent.isNone then
    if dropped = 0 ∧ !s.negative then some (.whole n)
    else if dropped = 0 ∧ 0 < n ∧ n ≤ 0x8000000000000000 then some (.whole (-n))
    else real n dropped
  else
    let (m, more) := takeDigits n s.fraction
    real m ((dropped : Int) - more + s.exponent.getD 0)

/-- The digits at the start, and what follows them. -/
def spanDigits : List Piece → List Nat × List Piece
  | .char c :: rest =>
    match Decimal.digit? c with
    | some d =>
      let (ds, left) := spanDigits rest
      (d :: ds, left)
    | none => ([], .char c :: rest)
  | input => ([], input)

def exponentSign : List Piece → Bool × List Piece
  | .char '+' :: rest => (false, rest)
  | .char '-' :: rest => (true, rest)
  | input => (false, input)

/-- The exponent, if there is one; none if it has no digits. -/
def exponent? : List Piece → Option (Option Int × List Piece)
  | .char c :: rest =>
    if c = 'e' ∨ c = 'E' then
      let (negative, rest) := exponentSign rest
      let (ds, left) := spanDigits rest
      if ds.isEmpty then none
      else
        let n : Int := Decimal.value ds
        some (some (if negative then -n else n), left)
    else some (none, .char c :: rest)
  | input => some (none, input)

/-- The fraction's digits, if there is one; none if it has no digits. -/
def fraction? : List Piece → Option (List Nat × List Piece)
  | .char '.' :: rest =>
    let (ds, left) := spanDigits rest
    if ds.isEmpty then none else some (ds, left)
  | input => some ([], input)

def leadingSign : List Piece → Bool × List Piece
  | .char '-' :: rest => (true, rest)
  | input => (false, input)

/-- Reads a number's spelling; none where the grammar is broken. -/
def spelling? (input : List Piece) : Option (Spelling × List Piece) :=
  let (negative, input) := leadingSign input
  let (integer, input) := spanDigits input
  match integer with
  | [] => none
  | 0 :: _ :: _ => none
  | _ => do
    let (fraction, input) ← fraction? input
    let (exponent, input) ← exponent? input
    return (⟨negative, integer, fraction, exponent⟩, input)

def number? (input : List Piece) : Option (Number × List Piece) := do
  let (spelling, left) ← spelling? input
  let n ← spelling.number?
  return (n, left)

end DeviceGateway.Json
