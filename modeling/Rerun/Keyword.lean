import Rerun.Text.Blank

/-!
# Keywords

Statements are recognised by the keywords that open them. Each recogniser
here reads from the front of a text and returns what follows, so that a
longer pattern is a chain of recognisers. None of them needs to be retried:
a gap takes every ASCII blank there is, and no keyword begins with a blank.

## Main definitions

* `word?`: A keyword, in any ASCII case.
* `gap?`: One or more ASCII blanks.
* `phrase?`: Keywords with gaps between them.
* `atBoundary`: Whether a word has ended.
* `taken`: What a recogniser consumed.
-/

namespace Rerun

namespace Keyword

open Text

/-- Reads a keyword, given in upper case, in any ASCII case. -/
def word? : List Char → List Char → Option (List Char)
  | [], rest => some rest
  | _ :: _, [] => none
  | w :: ws, c :: rest => if c.toUpper = w then word? ws rest else none

/-- Reads one or more ASCII blanks. -/
def gap? : List Char → Option (List Char)
  | [] => none
  | c :: rest => if isGap c then some (rest.dropWhile isGap) else none

/-- Reads keywords with gaps between them. -/
def phrase? : List (List Char) → List Char → Option (List Char)
  | [], rest => some rest
  | [w], rest => word? w rest
  | w :: ws, rest => do
    let rest ← word? w rest
    let rest ← gap? rest
    phrase? ws rest

/-- Whether a word that ends here is complete: no word character follows. -/
def atBoundary : List Char → Bool
  | [] => true
  | c :: _ => !isWord c

/-- What was consumed of a text when `rest` is left of it. -/
def taken (text rest : List Char) : List Char :=
  text.take (text.length - rest.length)

end Keyword

end Rerun
