import DeviceGateway.Json.Value
import DeviceGateway.Text.Utf8
/-!
Strings as JSON spells them: escapes are read, surrogates must come in pairs, and octets that are no
character are refused.
-/
namespace DeviceGateway.Json

open Utf8 (Piece)

def hexValue? (c : Char) : Option Nat :=
  let n := c.toNat
  if 48 ≤ n ∧ n ≤ 57 then some (n - 48)
  else if 65 ≤ n ∧ n ≤ 70 then some (n - 55)
  else if 97 ≤ n ∧ n ≤ 102 then some (n - 87)
  else none

/-- The sixteen-bit unit that four hexadecimal digits spell. -/
def unit? : List Piece → Option Nat
  | .char a :: .char b :: .char c :: .char d :: _ => do
    let a ← hexValue? a
    let b ← hexValue? b
    let c ← hexValue? c
    let d ← hexValue? d
    return ((a * 16 + b) * 16 + c) * 16 + d
  | _ => none

def letter? (c : Char) : Option Char :=
  if c = '"' ∨ c = '\\' ∨ c = '/' then some c
  else if c = 'b' then some '\x08'
  else if c = 'f' then some '\x0c'
  else if c = 'n' then some '\n'
  else if c = 'r' then some '\r'
  else if c = 't' then some '\t'
  else none

def isHighSurrogate (n : Nat) : Bool := 0xD800 ≤ n && n ≤ 0xDBFF

def isLowSurrogate (n : Nat) : Bool := 0xDC00 ≤ n && n ≤ 0xDFFF

/-- The low surrogate that an escape at the start spells. -/
def lowSurrogate? : List Piece → Option Nat
  | .char '\\' :: .char 'u' :: rest => (unit? rest).filter isLowSurrogate
  | _ => none

/-- The character of a hexadecimal escape, from after its letter, and how many pieces spell it. -/
def codePoint? (input : List Piece) : Option (Char × Nat) := do
  let n ← unit? input
  if isLowSurrogate n then none
  else if isHighSurrogate n then do
    let m ← lowSurrogate? (input.drop 4)
    return (.ofNat (0x10000 + (n - 0xD800) * 0x400 + (m - 0xDC00)), 10)
  else return (.ofNat n, 4)

/-- The character of an escape, from after the backslash, and how many pieces spell it. -/
def escaped? : List Piece → Option (Char × Nat)
  | .char c :: rest =>
    if c = 'u' then (codePoint? rest).map fun (d, k) => (d, k + 1)
    else (letter? c).map fun d => (d, 1)
  | _ => none

/-- The characters up to the closing quote, and what follows it; `spelt` pieces at the start belong
to an escape already read. -/
def contents? (spelt : Nat) : List Piece → Option (List Char × List Piece)
  | [] => none
  | .junk _ :: _ => none
  | .char c :: rest =>
    match spelt with
    | k + 1 => contents? k rest
    | 0 =>
      if c = '"' then some ([], rest)
      else if c = '\\' then do
        let (d, k) ← escaped? rest
        let (chars, left) ← contents? k rest
        return (d :: chars, left)
      else if c.toNat < 32 then none
      else do
        let (chars, left) ← contents? 0 rest
        return (c :: chars, left)

end DeviceGateway.Json
