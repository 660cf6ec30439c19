import Rerun.Pattern.Escape

/-!
# Bracket Expressions

What stands between brackets is a set of characters: single ones, ranges,
classes, and further sets between brackets. Two signs in a row combine what
stands before them with what stands after them, from left to right. A closing
bracket right after the opening one, and hyphens there, stand for themselves.

## Main definitions

* `Pattern.OpenSet`: A bracket that is not closed yet.
* `Pattern.bracket`: Reads a set.
-/

namespace Rerun

namespace Pattern

/-- A bracket that is not closed yet, with what was read since it. -/
structure OpenSet where
  /-- The opening bracket with the signs that belong to it. -/
  head : Stretch
  negated : Bool
  /-- The set before the last sign that combines two sets. -/
  left : Option (ClassSet × SetOperation) := none
  /-- Where the items stand. -/
  place : Stretch
  /-- The items since then, last one first. -/
  items : List ClassSet := []
deriving Repr

namespace OpenSet

/-- Adds an item. -/
def add (set : OpenSet) (item : ClassSet) : OpenSet :=
  let start := if set.items.isEmpty then item.place.start else set.place.start
  { set with place := ⟨start, item.place.stop⟩, items := item :: set.items }

/-- The items as one set. -/
def union (set : OpenSet) : ClassSet :=
  match set.items with
  | [] => .empty set.place
  | [item] => item
  | items => .union set.place items.reverse

/-- All that was read as one set. -/
def whole (set : OpenSet) : ClassSet :=
  match set.left with
  | none => set.union
  | some (left, operation) =>
    let right := set.union
    .combined ⟨left.place.start, right.place.stop⟩ operation left right

/-- Goes on after a sign that combines two sets. -/
def combine (set : OpenSet) (operation : SetOperation) (position : Nat) : OpenSet :=
  { set with left := some (set.whole, operation), place := ⟨position, position⟩, items := [] }

end OpenSet

/-- The class that has a name. -/
def asciiClass? (name : List Char) : Option AsciiClass :=
  match String.ofList name with
  | "alnum" => some .alnum
  | "alpha" => some .alpha
  | "ascii" => some .ascii
  | "blank" => some .blank
  | "cntrl" => some .cntrl
  | "digit" => some .digit
  | "graph" => some .graph
  | "lower" => some .lower
  | "print" => some .print
  | "punct" => some .punct
  | "space" => some .space
  | "upper" => some .upper
  | "word" => some .word
  | "xdigit" => some .xdigit
  | _ => none

/-- A named class at the beginning of a text, with the number of characters
    it takes. -/
def namedClass? (text : List Char) : Option (AsciiClass × Bool × Nat) :=
  match text with
  | '[' :: ':' :: rest =>
    let negated := rest.head? == some '^'
    let rest := if negated then rest.tail else rest
    let name := rest.takeWhile (· != ':')
    match rest.dropWhile (· != ':') with
    | ':' :: ']' :: _ =>
      (asciiClass? name).map fun kind =>
        (kind, negated, name.length + if negated then 5 else 4)
    | _ => none
  | _ => none

/-- The hyphens right after an opening bracket, at most `fuel` of them. -/
def leadingHyphens (start : Nat) : Nat → OpenSet → Reading OpenSet
  | 0, set => return set
  | fuel + 1, set => do
    if (← peek?) = some '-' then
      let here ← position
      advance
      if (← peek?).isNone then refuse .classUnclosed start start
      else leadingHyphens start fuel (set.add (.literal ⟨⟨here, here + 1⟩, '-', false⟩))
    else return set

/-- Refuses a bracket that the pattern ends after. -/
def moreAfter (start : Nat) : Reading Unit := do
  if (← peek?).isNone then refuse .classUnclosed start (← position)

/-- Reads an opening bracket with the signs that belong to it. -/
def openSet : Reading OpenSet := do
  let start ← position
  advance
  moreAfter start
  let negated := (← peek?) == some '^'
  if negated then
    advance
    moreAfter start
  let here ← position
  let set ← leadingHyphens start (← get).rest.length
    { head := ⟨start, here⟩, negated, place := ⟨here, here⟩ }
  if set.items.isEmpty && (← peek?) == some ']' then
    advance
    moreAfter start
    return { set.add (.literal ⟨⟨here, here + 1⟩, ']', false⟩) with
      head := ⟨start, ← position⟩ }
  else return { set with head := ⟨start, ← position⟩ }

/-- Reads a character or an escape between brackets. -/
def setAtom : Reading Expr := do
  match ← peek? with
  | some '\\' => escape
  | some c =>
    let here ← position
    bump
    return .literal ⟨⟨here, here + 1⟩, c, false⟩
  | none => refuseHere .classUnclosed

/-- An atom as an item of a set. -/
def itemOf : Expr → Reading ClassSet
  | .literal l => return .literal l
  | .letter place name negated => return .letter place name negated
  | .property place text => return .property place text
  | other => refuse .classEscape other.place.start other.place.stop

/-- An atom as an end of a range. -/
def boundaryOf : Expr → Reading Literal
  | .literal l => return l
  | other => refuse .rangeBoundary other.place.start other.place.stop

/-- Reads an item or a range. A hyphen before a closing bracket or before
    another hyphen makes no range. -/
def setItem (head : Stretch) : Reading ClassSet := do
  let first ← setAtom
  skip
  let cursor ← get
  if cursor.rest.isEmpty then refuse .classUnclosed head.start head.stop
  else if cursor.rest.head? ≠ some '-' ∨ cursor.second? = some ']' ∨
      cursor.second? = some '-' then itemOf first
  else
    advance
    if (← peek?).isNone then refuse .classUnclosed head.start head.stop
    else
      let last ← setAtom
      let place : Stretch := ⟨first.place.start, last.place.stop⟩
      let first ← boundaryOf first
      let last ← boundaryOf last
      if last.char < first.char then refuse .rangeOrder place.start place.stop
      else return .range place first last

/-- The sign of an operation that a text begins with. -/
def operation? : List Char → Option SetOperation
  | '&' :: '&' :: _ => some .intersection
  | '-' :: '-' :: _ => some .difference
  | '~' :: '~' :: _ => some .symmetricDifference
  | _ => none

/-- Reads up to the bracket that closes the outermost one. Every round passes
    over a character, so the length of the text bounds their number. -/
def setFrom : Nat → OpenSet → List OpenSet → Reading Expr
  | 0, set, _ => refuse .classUnclosed set.head.start set.head.stop
  | fuel + 1, set, outer => do
    skip
    let cursor ← get
    match namedClass? cursor.rest, operation? cursor.rest, cursor.rest with
    | _, _, [] => refuse .classUnclosed set.head.start set.head.stop
    | some (kind, negated, length), _, _ =>
      modify (Cursor.drop length)
      setFrom fuel (set.add (.ascii ⟨cursor.position, ← position⟩ kind negated)) outer
    | _, some operation, _ =>
      modify (Cursor.drop 2)
      setFrom fuel (set.combine operation (← position)) outer
    | _, _, '[' :: _ => setFrom fuel (← openSet) (set :: outer)
    | _, _, ']' :: _ =>
      bump
      let place : Stretch := ⟨set.head.start, ← position⟩
      match outer with
      | [] => return .bracket place set.negated set.whole
      | above :: outer =>
        setFrom fuel (above.add (.bracket place set.negated set.whole)) outer
    | _, _, _ => setFrom fuel (set.add (← setItem set.head)) outer

/-- Reads a set between brackets. -/
def bracket : Reading Expr := do
  let set ← openSet
  setFrom ((← get).rest.length + 1) set []

end Pattern

end Rerun
