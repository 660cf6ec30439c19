import Rerun.Pattern.Fault

/-!
# Reading a Pattern

A pattern is read from left to right, and the first fault ends the reading.
A cursor holds what is left of the pattern and where in it that begins. When
the pattern is verbose, blanks and comments between its parts are passed
over; a comment lasts from a number sign to the end of the line.

## Main definitions

* `Pattern.Cursor`: What is left of a pattern.
* `Pattern.Reading`: A step of the reading.
* `Pattern.bump`, `Pattern.advance`: Passing over a character.
* `Pattern.collect`: Passing over the characters of a class.
-/

namespace Rerun

namespace Pattern

open Text

/-- What is left of a pattern. -/
structure Cursor where
  /-- The number of characters that were read. -/
  position : Nat
  rest : List Char
  /-- Whether blanks and comments mean nothing. -/
  verbose : Bool
  /-- The names of groups so far, with their places. -/
  names : List (List Char × Stretch)
deriving DecidableEq, Repr

namespace Cursor

/-- The beginning of a pattern. -/
def ofPattern (pattern : List Char) : Cursor :=
  { position := 0, rest := pattern, verbose := false, names := [] }

/-- Passes over some characters. -/
def drop (count : Nat) (cursor : Cursor) : Cursor :=
  { cursor with
    position := cursor.position + min count cursor.rest.length
    rest := cursor.rest.drop count }

/-- The number of characters in the blanks and comments that a text begins
    with. -/
def spaceLength (inComment : Bool) : List Char → Nat
  | [] => 0
  | c :: rest =>
    if inComment then spaceLength (c != '\n') rest + 1
    else if isBlank c then spaceLength false rest + 1
    else if c = '#' then spaceLength true rest + 1
    else 0

/-- Passes over blanks and comments, if they mean nothing. -/
def skip (cursor : Cursor) : Cursor :=
  if cursor.verbose then cursor.drop (spaceLength false cursor.rest) else cursor

/-- The character after the next one. In a verbose pattern blanks before it
    are passed over, but of a comment only the number sign is. -/
def second? (cursor : Cursor) : Option Char :=
  let after := cursor.rest.tail
  if cursor.verbose then
    match after.dropWhile isBlank with
    | '#' :: comment => ((comment.dropWhile isBlank).head?).or after.head?
    | text => text.head?.or after.head?
  else after.head?

end Cursor

/-- A step of the reading of a pattern. -/
abbrev Reading := StateT Cursor (Except Refusal)

/-- Ends the reading with a fault at a place. -/
def refuse {α : Type} (fault : Fault) (start stop : Nat) : Reading α :=
  throw (.wrong fault ⟨start, stop⟩)

/-- The position of the next character. -/
def position : Reading Nat :=
  return (← get).position

/-- The next character. -/
def peek? : Reading (Option Char) :=
  return (← get).rest.head?

/-- Ends the reading with a fault between two characters. -/
def refuseHere {α : Type} (fault : Fault) : Reading α := do
  refuse fault (← position) (← position)

/-- Ends the reading with a fault at the next character. -/
def refuseNext {α : Type} (fault : Fault) : Reading α := do
  refuse fault (← position) ((← position) + 1)

/-- Passes over blanks and comments, if they mean nothing. -/
def skip : Reading Unit :=
  modify Cursor.skip

/-- Passes over a character. -/
def bump : Reading Unit :=
  modify (Cursor.drop 1)

/-- Passes over a character and what means nothing after it. -/
def advance : Reading Unit :=
  modify fun cursor => (cursor.drop 1).skip

/-- Passes over characters of a class, at most `fuel` of them, and returns
    them. -/
def collectFrom (p : Char → Bool) : Nat → Reading (List Char)
  | 0 => return []
  | fuel + 1 => do
    match ← peek? with
    | some c =>
      if p c then
        advance
        return c :: (← collectFrom p fuel)
      else return []
    | none => return []

/-- Passes over the characters of a class and returns them. -/
def collect (p : Char → Bool) : Reading (List Char) := do
  collectFrom p (← get).rest.length

end Pattern

end Rerun
