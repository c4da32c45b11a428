import DeviceGateway.Decimal.Digits
/-!
Addresses of 128 bits as text: eight groups of up to four hexadecimal digits with colons between
them. Two colons together stand for one or more groups of zero, and the last two groups may be
spelled as four decimal numbers.
-/
namespace DeviceGateway.Net

def parts (c : Char) : List Char → List (List Char)
  | [] => [[]]
  | d :: rest =>
    if d = c then [] :: parts c rest
    else match parts c rest with
      | [] => [[d]]
      | first :: others => (d :: first) :: others

namespace Ipv6

def isHexDigit (c : Char) : Bool :=
  c.isDigit || ('a' ≤ c && c ≤ 'f') || ('A' ≤ c && c ≤ 'F')

def isGroup (text : List Char) : Bool :=
  text ≠ [] && text.length ≤ 4 && text.all isHexDigit

/-- A number below 256 without leading zeros. -/
def isOctet (text : List Char) : Bool :=
  (Decimal.read? text).any fun n => n < 256 && Decimal.write n = text

def isDotted (text : List Char) : Bool :=
  let numbers := parts '.' text
  numbers.length = 4 && numbers.all isOctet

/-- How many groups some parts stand for; only the very last part may be dotted. -/
def groups? (dotted : Bool) : List (List Char) → Option Nat
  | [] => some 0
  | [part] => if isGroup part then some 1 else if dotted && isDotted part then some 2 else none
  | part :: rest => if isGroup part then (groups? dotted rest).map (· + 1) else none

/-- The texts on both sides of the first two colons together. -/
def cutGap? : List Char → Option (List Char × List Char)
  | ':' :: ':' :: rest => some ([], rest)
  | c :: rest => (cutGap? rest).map fun (front, back) => (c :: front, back)
  | [] => none

/-- The groups on one side of a gap, of which there may be none. -/
def side? (dotted : Bool) (text : List Char) : Option Nat :=
  if text = [] then some 0 else groups? dotted (parts ':' text)

def isAddress (text : List Char) : Bool :=
  match cutGap? text with
  | none => groups? true (parts ':' text) = some 8
  | some (front, back) =>
    match side? false front, side? true back with
    | some m, some n => m + n ≤ 7
    | _, _ => false

end Ipv6

end DeviceGateway.Net
