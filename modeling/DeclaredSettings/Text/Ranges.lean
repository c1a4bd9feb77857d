/-!
Classes of characters given as ranges of their numbers.
-/

namespace DeclaredSettings.Text

/-- Whether a character lies in one of the ranges, both ends included. -/
def inRanges (ranges : Array (Nat × Nat)) (c : Char) : Bool :=
  ranges.any fun r => r.1 ≤ c.toNat && c.toNat ≤ r.2

end DeclaredSettings.Text
