import Rerun.Text.Blank

/-!
# Why a Pattern Is Refused

A pattern that cannot be used is reported with the text of the pattern and a
row of carets under what is wrong in it. Places in a pattern are counted in
characters from its beginning. A pattern of several lines is shown with line
numbers, and a place that does not end on the line it starts on is named in
words.

## Main definitions

* `Pattern.Stretch`: A part of a pattern.
* `Pattern.Fault`: What can be wrong with a part of a pattern.
* `Pattern.Refusal`: Why a whole pattern is refused.
* `Pattern.Refusal.report`: A refusal as a user sees it.
-/

namespace Rerun

namespace Pattern

open Text

/-- A part of a pattern: the characters from `start` up to `stop`. -/
structure Stretch where
  start : Nat
  stop : Nat
deriving DecidableEq, Repr

/-- What can be wrong with a part of a pattern. Where something was given
    before, the fault holds the place of that. -/
inductive Fault where
  | classEscape
  | rangeOrder
  | rangeBoundary
  | classUnclosed
  | decimalInvalid
  | hexEmpty
  | hexInvalid
  | hexDigit
  | escapeUnfinished
  | escapeUnknown
  | flagDangling
  | flagTwice (first : Stretch)
  | negationTwice (first : Stretch)
  | flagMissing
  | flagUnknown
  | nameTwice (first : Stretch)
  | nameEmpty
  | nameInvalid
  | nameUnclosed
  | groupUnclosed
  | groupUnopened
  | nesting
  | countOrder
  | countEmpty
  | countUnclosed
  | nothingRepeated
  | boundaryUnclosed
  | boundaryUnknown
  | boundaryUnfinished
  | propertyInvalid
  | backreference
  | lookAround
  | unicodeRefused
  | notUtf8
  | propertyUnknown
  | valueUnknown
  | classUnavailable
  | caseUnavailable
deriving DecidableEq, Repr

/-- How deep the parts of a pattern may be nested. -/
def nestLimit : Nat := 250

/-- How many bytes a pattern may need. -/
def sizeLimit : Nat := 10485760

namespace Fault

/-- What is said about a fault. -/
def message : Fault → String
  | classEscape => "invalid escape sequence found in character class"
  | rangeOrder => "invalid character class range, the start must be <= the end"
  | rangeBoundary => "invalid range boundary, must be a literal"
  | classUnclosed => "unclosed character class"
  | decimalInvalid => "decimal literal invalid"
  | hexEmpty => "hexadecimal literal empty"
  | hexInvalid => "hexadecimal literal is not a Unicode scalar value"
  | hexDigit => "invalid hexadecimal digit"
  | escapeUnfinished => "incomplete escape sequence, reached end of pattern prematurely"
  | escapeUnknown => "unrecognized escape sequence"
  | flagDangling => "dangling flag negation operator"
  | flagTwice _ => "duplicate flag"
  | negationTwice _ => "flag negation operator repeated"
  | flagMissing => "expected flag but got end of regex"
  | flagUnknown => "unrecognized flag"
  | nameTwice _ => "duplicate capture group name"
  | nameEmpty => "empty capture group name"
  | nameInvalid => "invalid capture group character"
  | nameUnclosed => "unclosed capture group name"
  | groupUnclosed => "unclosed group"
  | groupUnopened => "unopened group"
  | nesting => s!"exceed the maximum number of nested parentheses/brackets ({nestLimit})"
  | countOrder => "invalid repetition count range, the start must be <= the end"
  | countEmpty => "repetition quantifier expects a valid decimal"
  | countUnclosed => "unclosed counted repetition"
  | nothingRepeated => "repetition operator missing expression"
  | boundaryUnclosed =>
    "special word boundary assertion is either unclosed or contains an invalid character"
  | boundaryUnknown =>
    "unrecognized special word boundary assertion, valid choices are: " ++
      "start, end, start-half or end-half"
  | boundaryUnfinished =>
    "found either the beginning of a special word boundary or a bounded repetition on a " ++
      "\\b with an opening brace, but no closing brace"
  | propertyInvalid => "invalid Unicode character class"
  | backreference => "backreferences are not supported"
  | lookAround => "look-around, including look-ahead and look-behind, is not supported"
  | unicodeRefused => "Unicode not allowed here"
  | notUtf8 => "pattern can match invalid UTF-8"
  | propertyUnknown => "Unicode property not found"
  | valueUnknown => "Unicode property value not found"
  | classUnavailable =>
    "Unicode-aware Perl class not found (make sure the unicode-perl feature is enabled)"
  | caseUnavailable =>
    "Unicode-aware case insensitivity matching is not available " ++
      "(make sure the unicode-case feature is enabled)"

/-- The place of what was given before. -/
def earlier? : Fault → Option Stretch
  | flagTwice first | negationTwice first | nameTwice first => some first
  | _ => none

end Fault

/-- Why a whole pattern is refused. -/
inductive Refusal where
  /-- A part of it is wrong. -/
  | wrong (fault : Fault) (place : Stretch)
  /-- It asks for words outside ASCII, which are not known. -/
  | words
  /-- It needs too many bytes. -/
  | size
deriving DecidableEq, Repr

/-- The number of ends of lines before a position. -/
def lineOf (pattern : List Char) (position : Nat) : Nat :=
  (pattern.take position).count '\n'

/-- The number of characters between the last end of a line before a position
    and the position. -/
def columnOf (pattern : List Char) (position : Nat) : Nat :=
  ((pattern.take position).reverse.takeWhile (· != '\n')).length

/-- The lines of a pattern. What ends a line is not part of it, and a line
    that has no end must not be empty. -/
def linesOf (pattern : List Char) : List (List Char) :=
  let pieces := splitOn '\n' pattern
  let ended := pieces.dropLast.map fun line =>
    if line.getLast? = some '\r' then line.dropLast else line
  match pieces.getLast? with
  | none | some [] => ended
  | some line => ended ++ [line]

/-- The digits of a number, filled up with blanks on the left. -/
def padded (width n : Nat) : List Char :=
  let digits := (toString n).toList
  List.replicate (width - digits.length) ' ' ++ digits

namespace Refusal

/-- The carets of some stretches of one line, from a column on. Every stretch
    gets at least one. -/
def carets (pattern : List Char) (column : Nat) : List Stretch → List Char
  | [] => []
  | stretch :: rest =>
    let start := columnOf pattern stretch.start
    let count := max 1 (columnOf pattern stretch.stop - start)
    List.replicate (start - column) ' ' ++ List.replicate count '^' ++
      carets pattern (max column start + count) rest

/-- The lines of a pattern with carets below the stretches on them. `margin`
    is the width of the line numbers. -/
def notate (pattern : List Char) (margin : Nat) (stretches : List Stretch) (line : Nat) :
    List (List Char) → List Char
  | [] => []
  | text :: rest =>
    let lead := if margin = 0 then List.replicate 4 ' ' else padded margin (line + 1) ++ ": ".toList
    let marked := stretches.filter fun s => lineOf pattern s.start == line
    let marks :=
      if marked.isEmpty then []
      else List.replicate lead.length ' ' ++ carets pattern 0 marked ++ ['\n']
    lead ++ text ++ '\n' :: marks ++ notate pattern margin stretches (line + 1) rest

/-- The name of a stretch that does not end on the line it starts on. -/
def inWords (pattern : List Char) (stretch : Stretch) : String :=
  let line := lineOf pattern stretch.start + 1
  let column := columnOf pattern stretch.start + 1
  let lastLine := lineOf pattern stretch.stop + 1
  let lastColumn := columnOf pattern stretch.stop
  s!"on line {line} (column {column}) through line {lastLine} (column {lastColumn})\n"

/-- The row that encloses a pattern of several lines. -/
def divider : List Char :=
  List.replicate 79 '~' ++ ['\n']

/-- The report about a part of a pattern. -/
def reportAt (pattern : List Char) (fault : Fault) (place : Stretch) : String :=
  let stretches := (place :: fault.earlier?.toList).mergeSort fun a b =>
    a.start < b.start || (a.start == b.start && a.stop ≤ b.stop)
  let (short, long) := stretches.partition fun s =>
    lineOf pattern s.start == lineOf pattern s.stop
  let count := (splitOn '\n' pattern).length
  let margin := if count ≤ 1 then 0 else (toString count).length
  let notated := notate pattern margin short 0 (linesOf pattern)
  let body :=
    if margin = 0 then notated
    else divider ++ notated ++ divider ++ (long.map fun s => (inWords pattern s).toList).flatten
  "regex parse error:\n" ++ String.ofList body ++ "error: " ++ fault.message

/-- A refusal as a user sees it. -/
def report (pattern : List Char) : Refusal → String
  | wrong fault place => reportAt pattern fault place
  | words => "error building NFA"
  | size => s!"Compiled regex exceeds size limit of {sizeLimit} bytes."

end Refusal

end Pattern

end Rerun
