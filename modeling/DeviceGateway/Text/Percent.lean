import DeviceGateway.Text.Utf8
/-!
Percent escapes in a path: an escape of two hexadecimal digits is one octet, anything else stands
for itself.
-/
namespace DeviceGateway.Percent

def hexValue? (b : UInt8) : Option Nat :=
  let n := b.toNat
  if 48 ≤ n ∧ n ≤ 57 then some (n - 48)
  else if 65 ≤ n ∧ n ≤ 70 then some (n - 55)
  else if 97 ≤ n ∧ n ≤ 102 then some (n - 87)
  else none

/-- The octet that an escape spells, from after the percent sign. -/
def escaped? : Bytes → Option UInt8
  | a :: b :: _ => do
    let a ← hexValue? a
    let b ← hexValue? b
    return .ofNat (a * 16 + b)
  | _ => none

/-- Reads octets of which the first `spelt` belong to an escape already read. -/
def decodeFrom (spelt : Nat) : Bytes → Bytes
  | [] => []
  | b :: rest =>
    match spelt with
    | k + 1 => decodeFrom k rest
    | 0 =>
      match (if b = 37 then escaped? rest else none) with
      | some octet => octet :: decodeFrom 2 rest
      | none => b :: decodeFrom 0 rest

def decode (octets : Bytes) : Bytes := decodeFrom 0 octets

end DeviceGateway.Percent
