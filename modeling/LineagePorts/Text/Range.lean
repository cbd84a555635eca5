/-!
# Ranges of characters

A property of characters as a table of the ranges of code points that have it, both ends included.
-/

namespace LineagePorts.Text

abbrev Ranges := List (Nat × Nat)

/-- Whether a character lies in one of the ranges. -/
def Ranges.contains (ranges : Ranges) (c : Char) : Bool :=
  ranges.any fun range => range.1 ≤ c.toNat && c.toNat ≤ range.2

end LineagePorts.Text
