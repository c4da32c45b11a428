import DeviceGateway.Decimal.Digits
/-!
The shortest decimal that reads back as a given binary number. A number `m * 2 ^ q` stands for all
reals that round to it; of the decimals there, one with the fewest digits is taken, and of those the
nearest.
-/
namespace DeviceGateway.Decimal

/-- A positive binary floating-point number `m * 2 ^ q`; `narrow` when the gap below it is half the
gap above it. -/
structure Binary where
  m : Nat
  q : Int
  narrow : Bool
deriving DecidableEq, Repr

/-- The leading digit of a double, which its bits leave out. -/
def hidden : Nat := 0x10000000000000

/-- The magnitude of a finite double, from its bits. -/
def Binary.ofBits (bits : UInt64) : Binary :=
  let field : Nat := bits.toNat / hidden % 2048
  let fraction : Nat := bits.toNat % hidden
  if field = 0 then ⟨fraction, -1074, false⟩
  else ⟨hidden + fraction, Int.ofNat field - 1075, fraction = 0 && 1 < field⟩

/-- A decimal `digits * 10 ^ exponent`. -/
structure Scaled where
  digits : Nat
  exponent : Int
deriving DecidableEq, Repr

/-- A power with a negative exponent counted as one. -/
def up (base : Nat) (e : Int) : Nat := Nat.pow base e.toNat

/-- Four times the number, its bounds, and a decimal, brought to one scale. -/
def Binary.scaled (b : Binary) (exponent : Int) : Nat := up 2 b.q * up 10 (-exponent)

def Binary.gridScale (b : Binary) (exponent : Int) : Nat := up 10 exponent * up 2 (-b.q)

/-- Whether `c * 10 ^ exponent` rounds to the number; the ends of the interval do when `m` is
even. -/
def Binary.holds (b : Binary) (c : Nat) (exponent : Int) : Bool :=
  let least := (4 * b.m - if b.narrow then 1 else 2) * b.scaled exponent
  let greatest := (4 * b.m + 2) * b.scaled exponent
  let here := 4 * c * b.gridScale exponent
  if b.m % 2 = 0 then least ≤ here && here ≤ greatest else least < here && here < greatest

/-- The distance of `c * 10 ^ exponent` from the number, on the common scale. -/
def Binary.distance (b : Binary) (c : Nat) (exponent : Int) : Nat :=
  let value := 4 * b.m * b.scaled exponent
  let here := 4 * c * b.gridScale exponent
  (value - here) + (here - value)

/-- The decimal of the grid `10 ^ exponent` that reads back and is nearest; a tie goes to the even
one. -/
def Binary.onGrid? (b : Binary) (exponent : Int) : Option Nat :=
  let low := b.m * b.scaled exponent / b.gridScale exponent
  match b.holds low exponent, b.holds (low + 1) exponent with
  | true, false => some low
  | false, true => some (low + 1)
  | false, false => none
  | true, true =>
    let below := b.distance low exponent
    let above := b.distance (low + 1) exponent
    if below < above ∨ (below = above ∧ low % 2 = 0) then some low else some (low + 1)

def Binary.magnitude (b : Binary) : Int :=
  ((digits (b.m * up 2 b.q * up 10 400 / up 2 (-b.q))).length : Int) - 401

/-- Tries grids of ever more digits. -/
def Binary.search (b : Binary) : Nat → Int → Scaled
  | 0, exponent => ⟨b.m * b.scaled exponent / b.gridScale exponent, exponent⟩
  | tries + 1, exponent =>
    match b.onGrid? exponent with
    | some c => ⟨c, exponent⟩
    | none => b.search tries (exponent - 1)

def Scaled.trim (s : Scaled) : Scaled :=
  if h : s.digits ≠ 0 ∧ s.digits % 10 = 0 then Scaled.trim ⟨s.digits / 10, s.exponent + 1⟩ else s
termination_by s.digits
decreasing_by omega

def Binary.shortest (b : Binary) : Scaled := (b.search 17 b.magnitude).trim

/-- How a decimal is spelled: the exponents of the leading digit that are written positionally, and
the sign in front of an exponent that is not negative. -/
structure Layout where
  least : Int
  greatest : Int
  plus : List Char

/-- Spells a decimal; a whole number ends in a point and a zero. -/
def Layout.write (layout : Layout) (s : Scaled) : List Char :=
  let ds := Decimal.write s.digits
  let lead := s.exponent + ds.length - 1
  if layout.least ≤ lead ∧ lead ≤ layout.greatest then
    if 0 ≤ s.exponent then ds ++ List.replicate s.exponent.toNat '0' ++ ['.', '0']
    else if 0 ≤ lead then ds.take (lead.toNat + 1) ++ '.' :: ds.drop (lead.toNat + 1)
    else '0' :: '.' :: List.replicate (-lead - 1).toNat '0' ++ ds
  else
    let mantissa := match ds with
      | d :: [] => [d]
      | d :: rest => d :: '.' :: rest
      | [] => []
    let sign := if 0 ≤ lead then layout.plus else ['-']
    mantissa ++ 'e' :: sign ++ Decimal.write lead.natAbs

end DeviceGateway.Decimal
