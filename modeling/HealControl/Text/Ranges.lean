/-!
# Classes of code points

A class of characters given by ranges from a first to a last code point.
-/
namespace HealControl.Text

def inRanges (ranges : List (Nat × Nat)) (n : Nat) : Bool :=
  ranges.any fun r => r.1 ≤ n && n ≤ r.2

end HealControl.Text
