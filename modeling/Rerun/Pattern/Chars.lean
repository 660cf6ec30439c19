import Rerun.Pattern.Expr
import Rerun.Text.Ranges

/-!
# Sets of Characters

The sets that a pattern speaks about, as ranges of code points. `normal`
brings ranges into increasing order and joins those that touch, so that a set
has one form only. The operations on sets are all made from that and from the
complement below a largest code point.

## Main definitions

* `Chars.normal`: Ranges in their normal form.
* `Chars.complement`, `Chars.combine`: The operations on sets.
* `Chars.ignoreCase`: A set with the other case of its ASCII letters.
* `AsciiClass.ranges`, `LetterClass.ranges`: The classes that have names.
-/

namespace Rerun

namespace Pattern

namespace Chars

/-- Adds a range in front of ranges that begin later, joining those that it
    touches. -/
def cons (range : Nat × Nat) : Ranges → Ranges
  | [] => [range]
  | next :: rest =>
    if next.1 ≤ range.2 + 1 then cons (range.1, max range.2 next.2) rest
    else range :: next :: rest

/-- Joins ranges in the order of their beginnings. -/
def join : Ranges → Ranges
  | [] => []
  | range :: rest => cons range (join rest)

/-- Ranges in their normal form. -/
def normal (ranges : Ranges) : Ranges :=
  join (ranges.mergeSort fun a b => a.1 ≤ b.1)

/-- What lies between ranges in their normal form, from a code point up to a
    largest one. -/
def between (largest first : Nat) : Ranges → Ranges
  | [] => if first ≤ largest then [(first, largest)] else []
  | range :: rest =>
    if first < range.1 then (first, range.1 - 1) :: between largest (range.2 + 1) rest
    else between largest (range.2 + 1) rest

/-- The code points up to a largest one that are not in a set. -/
def complement (largest : Nat) (set : Ranges) : Ranges :=
  between largest 0 (normal set)

/-- The code points that are in both of two sets. -/
def intersection (largest : Nat) (a b : Ranges) : Ranges :=
  complement largest (complement largest a ++ complement largest b)

/-- Two sets combined. -/
def combine (largest : Nat) (operation : SetOperation) (a b : Ranges) : Ranges :=
  match operation with
  | .intersection => intersection largest a b
  | .difference => intersection largest a (complement largest b)
  | .symmetricDifference =>
    intersection largest (a ++ b) (complement largest (intersection largest a b))

/-- The part of a range that lies between two code points, moved by a
    function. -/
def moved (low high : Nat) (move : Nat → Nat) (range : Nat × Nat) : Ranges :=
  let first := max low range.1
  let last := min high range.2
  if first ≤ last then [(move first, move last)] else []

/-- A set with the other case of its ASCII letters. -/
def ignoreCase (set : Ranges) : Ranges :=
  set.flatMap fun range =>
    range :: moved 0x61 0x7A (· - 0x20) range ++ moved 0x41 0x5A (· + 0x20) range

end Chars

namespace AsciiClass

/-- The characters of a class. -/
def ranges : AsciiClass → Ranges
  | alnum => [(0x30, 0x39), (0x41, 0x5A), (0x61, 0x7A)]
  | alpha => [(0x41, 0x5A), (0x61, 0x7A)]
  | ascii => [(0x00, 0x7F)]
  | blank => [(0x09, 0x09), (0x20, 0x20)]
  | cntrl => [(0x00, 0x1F), (0x7F, 0x7F)]
  | digit => [(0x30, 0x39)]
  | graph => [(0x21, 0x7E)]
  | lower => [(0x61, 0x7A)]
  | print => [(0x20, 0x7E)]
  | punct => [(0x21, 0x2F), (0x3A, 0x40), (0x5B, 0x60), (0x7B, 0x7E)]
  | space => [(0x09, 0x0D), (0x20, 0x20)]
  | upper => [(0x41, 0x5A)]
  | word => [(0x30, 0x39), (0x41, 0x5A), (0x5F, 0x5F), (0x61, 0x7A)]
  | xdigit => [(0x30, 0x39), (0x41, 0x46), (0x61, 0x66)]

end AsciiClass

namespace LetterClass

/-- The ASCII characters of a class. -/
def ranges : LetterClass → Ranges
  | digit => AsciiClass.digit.ranges
  | space => AsciiClass.space.ranges
  | word => AsciiClass.word.ranges

end LetterClass

end Pattern

end Rerun
