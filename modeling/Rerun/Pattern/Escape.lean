import Rerun.Pattern.Cursor
import Rerun.Pattern.Expr
import Rerun.Text.Ranges

/-!
# Escapes

What a backslash and the characters after it mean: a character that has a
meaning of its own otherwise, a character by its number, a class of
characters or a condition on a position. Digits after a backslash would refer
to a group, which no pattern can, and letters without a meaning are refused.

## Main definitions

* `Pattern.escape`: Reads an escape.
-/

namespace Rerun

namespace Pattern

open Text

/-- Whether a character stands for itself after a backslash: it is in ASCII
    and neither a letter, a digit nor an angle bracket. -/
def isEscapable (c : Char) : Bool :=
  c.toNat < 0x80 && !c.isAlphanum && c != '<' && c != '>'

/-- A hexadecimal digit. -/
def isHexDigit (c : Char) : Bool :=
  c.isDigit || between 0x41 0x46 c || between 0x61 0x66 c

/-- The value of a hexadecimal digit. -/
def hexValue (c : Char) : Nat :=
  if c.isDigit then c.toNat - 0x30 else c.toLower.toNat - 0x57

/-- The number that hexadecimal digits write. -/
def hexNumber (digits : List Char) : Nat :=
  digits.foldl (fun n c => n * 16 + hexValue c) 0

/-- The character with a number, if there is one. -/
def charOf? (n : Nat) : Option Char :=
  if n.isValidChar then some (Char.ofNat n) else none

/-- Reads exactly so many hexadecimal digits. -/
def hexDigits : Nat → Reading (List Char)
  | 0 => return []
  | count + 1 => do
    match ← peek? with
    | none => refuseHere .escapeUnfinished
    | some c =>
      if isHexDigit c then
        advance
        return c :: (← hexDigits count)
      else refuseNext .hexDigit

/-- Reads a number between braces. -/
def hexBraces (start : Nat) : Reading Expr := do
  let brace ← position
  advance
  let digits ← collect isHexDigit
  let stop ← position
  match ← peek? with
  | none => refuse .escapeUnfinished brace stop
  | some '\x7d' =>
    advance
    if digits.isEmpty then refuse .hexEmpty brace (← position)
    else
      match charOf? (hexNumber digits) with
      | some char => return .literal ⟨⟨start, ← position⟩, char, false⟩
      | none => refuse .hexInvalid (brace + 1) stop
  | some _ => refuseNext .hexDigit

/-- Reads a character by its number, after a letter that says how many digits
    there are without braces. -/
def hexEscape (start count : Nat) : Reading Expr := do
  advance
  match ← peek? with
  | none => refuseHere .escapeUnfinished
  | some '\x7b' => hexBraces start
  | some _ =>
    let first ← position
    let digits ← hexDigits count
    match charOf? (hexNumber digits) with
    | some char => return .literal ⟨⟨start, ← position⟩, char, count == 2⟩
    | none => refuse .hexInvalid first (← position)

/-- Reads the name of a property: one letter, or text between braces. -/
def propertyEscape (start : Nat) : Reading Expr := do
  advance
  match ← peek? with
  | none => refuseHere .escapeUnfinished
  | some '\\' => refuseNext .propertyInvalid
  | some '\x7b' =>
    advance
    let text ← collect (· != '\x7d')
    if (← peek?).isNone then refuseHere .escapeUnfinished
    else
      bump
      return .property ⟨start, ← position⟩ text
  | some c =>
    advance
    return .property ⟨start, ← position⟩ [c]

/-- A character in the name of a condition on words. -/
def isBoundaryName (c : Char) : Bool :=
  c.isAlpha || c == '-'

/-- Reads which end of a word is meant. Braces that cannot hold a name are
    left for a repetition. -/
def boundaryKind (start : Nat) : Reading Assertion := do
  let before ← get
  if before.rest.head? = some '\x7b' then
    advance
    let first ← position
    match ← peek? with
    | none => refuse .boundaryUnfinished start first
    | some c =>
      if isBoundaryName c then
        let name ← collect isBoundaryName
        let stop ← position
        if (← peek?) = some '\x7d' then
          bump
          match String.ofList name with
          | "start" => return .wordStart
          | "end" => return .wordEnd
          | "start-half" => return .wordStartHalf
          | "end-half" => return .wordEndHalf
          | _ => refuse .boundaryUnknown first stop
        else refuse .boundaryUnclosed before.position stop
      else
        set before
        return .boundary
  else return .boundary

/-- The class that a letter denotes. A capital denotes the other
    characters. -/
def letterClass? : Char → Option (LetterClass × Bool)
  | 'd' => some (.digit, false)
  | 'D' => some (.digit, true)
  | 's' => some (.space, false)
  | 'S' => some (.space, true)
  | 'w' => some (.word, false)
  | 'W' => some (.word, true)
  | _ => none

/-- The control character that a letter denotes. -/
def controlChar? : Char → Option Char
  | 'a' => some '\x07'
  | 'f' => some '\x0c'
  | 't' => some '\t'
  | 'n' => some '\n'
  | 'r' => some '\r'
  | 'v' => some '\x0b'
  | _ => none

/-- The condition that a character denotes, except the one that braces may
    follow. -/
def assertion? : Char → Option Assertion
  | 'A' => some .textStart
  | 'z' => some .textEnd
  | 'B' => some .noBoundary
  | '<' => some .wordStart
  | '>' => some .wordEnd
  | _ => none

/-- Reads the rest of an escape of one character. -/
def shortEscape (start : Nat) (c : Char) : Reading Expr := do
  bump
  let place : Stretch := ⟨start, ← position⟩
  if isEscapable c then return .literal ⟨place, c, false⟩
  else if c = 'b' then
    let kind ← boundaryKind start
    return .assertion ⟨start, ← position⟩ kind
  else
    match letterClass? c, controlChar? c, assertion? c with
    | some (name, negated), _, _ => return .letter place name negated
    | _, some char, _ => return .literal ⟨place, char, false⟩
    | _, _, some kind => return .assertion place kind
    | _, _, _ => refuse .escapeUnknown place.start place.stop

/-- Reads an escape. -/
def escape : Reading Expr := do
  let start ← position
  bump
  match ← peek? with
  | none => refuse .escapeUnfinished start (← position)
  | some 'x' => hexEscape start 2
  | some 'u' => hexEscape start 4
  | some 'U' => hexEscape start 8
  | some 'p' | some 'P' => propertyEscape start
  | some c =>
    if c.isDigit then refuse .backreference start ((← position) + 1)
    else shortEscape start c

end Pattern

end Rerun
