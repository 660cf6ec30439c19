/-!
# Ranges of Code Points

A property of characters, as the ranges of code points that have it, in
increasing order and apart from each other.

## Main definitions

* `Ranges`: A list of closed ranges.
* `Ranges.has`: Whether a character has the property.
* `Text.between`: Whether a character lies in one range.
-/

namespace Rerun

/-- Whether the code point of a character lies between two others. -/
def Text.between (low high : Nat) (c : Char) : Bool :=
  low ≤ c.toNat && c.toNat ≤ high

/-- Closed ranges of code points. -/
abbrev Ranges := List (Nat × Nat)

namespace Ranges

/-- Whether the code point of a character lies in one of the ranges. -/
def has (ranges : Ranges) (c : Char) : Bool :=
  ranges.any fun range => Text.between range.1 range.2 c

end Ranges

end Rerun
