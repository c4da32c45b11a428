/-!
Classes of characters as lists of ranges of code points, which ascend and do not touch.
-/
namespace DeviceGateway.Text

/-- Whether a character lies in one of the ranges, ends included. -/
def within (ranges : List (Nat × Nat)) (c : Char) : Bool :=
  ranges.any fun (least, greatest) => least ≤ c.toNat && c.toNat ≤ greatest

end DeviceGateway.Text
