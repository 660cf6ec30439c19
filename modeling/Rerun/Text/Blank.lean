/-!
# Blanks, Words and Case

The character classes a script is read with. Two notions of white space
occur side by side and must not be confused. Indentation and trimming use
the Unicode property `White_Space`, so a line indented by a no-break space
is still indented. Keywords are separated by the six ASCII blanks only, so
the same no-break space never stands between `CREATE` and `TABLE`.

Words and letter case are ASCII throughout: a keyword is the same keyword in
any case, and a letter outside ASCII never belongs to a word.

## Main definitions

* `isBlank`: The Unicode property `White_Space`.
* `isGap`: The ASCII blanks that separate keywords.
* `isWord`: The ASCII characters a word is made of.
* `indentOf`, `bodyOf`: A line split after its leading blanks.
* `trimBoth`: A text without the blanks at its two ends.
* `splitOn`: A text cut at every occurrence of a character.

## Theorems

* `isBlank_of_isGap`: An ASCII blank is a Unicode blank.
* `indentOf_append_bodyOf`: Indentation and body make up the line.
* `isBlank_of_mem_indentOf`: Indentation holds blanks only.
-/

namespace Rerun

namespace Text

/-- The Unicode property `White_Space`. The byte order mark and the
    zero-width space are not in it. -/
def isBlank (c : Char) : Bool :=
  let n := c.toNat
  (9 ≤ n && n ≤ 13) || n == 0x20 || n == 0x85 || n == 0xA0 || n == 0x1680 ||
    (0x2000 ≤ n && n ≤ 0x200A) || n == 0x2028 || n == 0x2029 || n == 0x202F ||
    n == 0x205F || n == 0x3000

/-- The ASCII blanks: tab, line feed, vertical tab, form feed, carriage
    return and space. -/
def isGap (c : Char) : Bool :=
  let n := c.toNat
  (9 ≤ n && n ≤ 13) || n == 0x20

/-- An ASCII letter, digit or underscore. -/
def isWord (c : Char) : Bool :=
  c.isAlphanum || c == '_'

/-- Keywords are separated by blanks that also count as indentation. -/
theorem isBlank_of_isGap {c : Char} (h : isGap c = true) : isBlank c = true := by
  simp only [isGap, Bool.or_eq_true] at h
  simp only [isBlank, Bool.or_eq_true]
  rcases h with h | h <;> simp [h]

/-- The leading blanks of a line. -/
def indentOf (line : List Char) : List Char :=
  line.takeWhile isBlank

/-- A line without its leading blanks. -/
def bodyOf (line : List Char) : List Char :=
  line.dropWhile isBlank

/-- Indentation and body make up the line. -/
@[simp]
theorem indentOf_append_bodyOf (line : List Char) : indentOf line ++ bodyOf line = line :=
  List.takeWhile_append_dropWhile

/-- Indentation holds blanks only. -/
theorem isBlank_of_mem_indentOf {line : List Char} {c : Char} (h : c ∈ indentOf line) :
    isBlank c = true :=
  List.all_eq_true.mp List.all_takeWhile c h

/-- A text without the blanks at its two ends. -/
def trimBoth (text : List Char) : List Char :=
  (bodyOf (bodyOf text).reverse).reverse

/-- A text without the characters of a class at its two ends. -/
def stripBoth (p : Char → Bool) (text : List Char) : List Char :=
  ((text.dropWhile p).reverse.dropWhile p).reverse

/-- The pieces of a text between the occurrences of a character. There is
    always one piece more than there are occurrences. -/
def splitOn (sep : Char) : List Char → List (List Char)
  | [] => [[]]
  | c :: rest =>
    match splitOn sep rest with
    | [] => [[c]]
    | piece :: pieces => if c = sep then [] :: piece :: pieces else (c :: piece) :: pieces

/-- A text with its ASCII letters in lower case. -/
def lower (text : List Char) : List Char :=
  text.map Char.toLower

/-- Whether a text begins with another one. -/
def startsWith (lead text : List Char) : Bool :=
  lead.isPrefixOf text

end Text

end Rerun
