import Rerun.Pattern.Bracket
import Rerun.Text.Letter

/-!
# Reading Whole Patterns

A pattern is a choice between sequences of parts. Parentheses make a part of
a whole pattern, which may be given a name or flags, and a part may be
followed by how often it is repeated.

The parentheses that are not closed yet are kept on a stack, so the reading
is a loop. Each round passes over at least one character.

## Main definitions

* `Pattern.Level`: What was read since an opening parenthesis.
* `Pattern.OpenGroup`: A parenthesis that is not closed yet.
* `Pattern.parse`: The tree of a pattern.
-/

namespace Rerun

namespace Pattern

open Text

/-- What was read since an opening parenthesis, or since the beginning. -/
structure Level where
  /-- Where that begins. -/
  start : Nat
  /-- Where the sequence begins that is being read. -/
  here : Nat
  /-- The finished sequences, last one first. -/
  branches : List Expr := []
  /-- The parts of the sequence that is being read, last one first. -/
  items : List Expr := []
deriving Repr

namespace Level

/-- A level that begins at a position. -/
def new (position : Nat) : Level :=
  { start := position, here := position }

/-- Adds a part. -/
def add (level : Level) (item : Expr) : Level :=
  { level with items := item :: level.items }

/-- The sequence that ends at a position. -/
def sequence (level : Level) (stop : Nat) : Expr :=
  match level.items with
  | [] => .empty ⟨level.here, stop⟩
  | [item] => item
  | items => .sequence ⟨level.here, stop⟩ items.reverse

/-- Goes on with a new sequence after the sign at a position. -/
def branch (level : Level) (stop : Nat) : Level :=
  { level with
    here := stop + 1
    branches := level.sequence stop :: level.branches
    items := [] }

/-- All of a level that ends at a position. -/
def close (level : Level) (stop : Nat) : Expr :=
  match level.branches with
  | [] => level.sequence stop
  | branches => .choice ⟨level.start, stop⟩ (level.sequence stop :: branches).reverse

end Level

/-- A parenthesis that is not closed yet. -/
structure OpenGroup where
  start : Nat
  captures : Bool
  changes : List (Flag × Bool)
  /-- What stands before it. -/
  before : Level
  /-- Whether the pattern was verbose before it. -/
  verbose : Bool
deriving Repr

/-- The flag that a letter denotes. -/
def flag? : Char → Option Flag
  | 'i' => some .caseless
  | 'm' => some .multiLine
  | 's' => some .dotAll
  | 'U' => some .swapGreed
  | 'u' => some .unicode
  | 'R' => some .crlf
  | 'x' => some .verbose
  | _ => none

/-- The flags of a group and the sign that negates those after it, with their
    places. The sign is written as no flag. -/
abbrev FlagSigns := List (Option Flag × Stretch)

/-- Reads flags up to a colon or a closing parenthesis. What was read before
    comes last one first. -/
def flagSigns : Nat → FlagSigns → Reading FlagSigns
  | 0, _ => refuseHere .flagMissing
  | fuel + 1, signs => do
    let here ← position
    match ← peek? with
    | none => refuseHere .flagMissing
    | some c =>
      if c = ':' ∨ c = ')' then
        match signs with
        | (none, place) :: _ => refuse .flagDangling place.start place.stop
        | _ => return signs.reverse
      else
        let sign := flag? c
        if c ≠ '-' ∧ sign = none then refuseNext .flagUnknown
        else
          match signs.lookup sign, sign with
          | some first, none => refuseNext (.negationTwice first)
          | some first, some _ => refuseNext (.flagTwice first)
          | none, _ =>
            bump
            flagSigns fuel ((sign, ⟨here, here + 1⟩) :: signs)

/-- What flags are set to: those after the negating sign are taken away. -/
def changesOf (value : Bool) : FlagSigns → List (Flag × Bool)
  | [] => []
  | (none, _) :: rest => changesOf false rest
  | (some flag, _) :: rest => (flag, value) :: changesOf value rest

/-- Whether a character can begin the name of a group. -/
def isNameStart (c : Char) : Bool :=
  c == '_' || Letter.isLetter c

/-- Whether a character can go on with the name of a group. -/
def isNamePart (c : Char) : Bool :=
  c == '_' || c == '.' || c == '[' || c == ']' || Letter.isLetterOrNumber c

/-- The name of a group at the beginning of a text. -/
def groupName (text : List Char) : List Char :=
  match text with
  | c :: rest => if isNameStart c then c :: rest.takeWhile isNamePart else []
  | [] => []

/-- Reads the name of a group and the bracket after it. -/
def captureName : Reading Unit := do
  let start ← position
  let name := groupName (← get).rest
  modify (Cursor.drop name.length)
  let stop ← position
  match ← peek? with
  | none => refuseHere .nameUnclosed
  | some '>' =>
    bump
    if name.isEmpty then refuse .nameEmpty start start
    else
      match (← get).names.lookup name with
      | some first => refuse (.nameTwice first) start stop
      | none =>
        modify fun cursor => { cursor with names := (name, ⟨start, stop⟩) :: cursor.names }
  | some _ => refuseNext .nameInvalid

/-- What an opening parenthesis begins. -/
inductive Head where
  /-- Flags for what follows. -/
  | flags (changes : List (Flag × Bool))
  | group (captures : Bool) (changes : List (Flag × Bool))
deriving Repr

/-- The signs of conditions on what stands before or after a position. -/
def lookAroundSigns : List (List Char) :=
  ["?=".toList, "?!".toList, "?<=".toList, "?<!".toList]

/-- Reads flags after a question mark, and what they are for. -/
def flagHead (start inner : Nat) : Reading Head := do
  bump
  if (← peek?).isNone then refuse .groupUnclosed start (start + 1)
  else
    let signs ← flagSigns ((← get).rest.length + 1) []
    let closing ← peek?
    bump
    if closing = some ')' then
      if signs.isEmpty then refuse .nothingRepeated inner inner
      else return .flags (changesOf true signs)
    else return .group false (changesOf true signs)

/-- Reads an opening parenthesis with what belongs to it. -/
def groupHead : Reading Head := do
  let start ← position
  bump
  skip
  let cursor ← get
  match lookAroundSigns.find? fun sign => startsWith sign cursor.rest with
  | some sign => refuse .lookAround start (cursor.position + sign.length)
  | none =>
    if startsWith "?P<".toList cursor.rest then
      modify (Cursor.drop 3)
      captureName
      return .group true []
    else if startsWith "?<".toList cursor.rest then
      modify (Cursor.drop 2)
      captureName
      return .group true []
    else if startsWith ['?'] cursor.rest then flagHead start cursor.position
    else return .group true []

/-- Sets whether the pattern is verbose, if that is among the changes. -/
def applyVerbose (changes : List (Flag × Bool)) : Reading Unit := do
  match changes.lookup .verbose with
  | some verbose => modify fun cursor => { cursor with verbose }
  | none => return

/-- The bound of the numbers in a repetition. -/
def countBound : Nat := Nat.pow 2 32

/-- Reads a number with the blanks around it. What is wrong with it is
    returned, since other faults may come first. -/
def decimal : Reading (Except Refusal Nat) := do
  let _ ← collect isBlank
  let start ← position
  let digits ← collect Char.isDigit
  let stop ← position
  let _ ← collect isBlank
  let n := digits.foldl (fun n c => n * 10 + (c.toNat - 0x30)) 0
  if digits.isEmpty then return .error (.wrong .countEmpty ⟨start, stop⟩)
  else if countBound ≤ n then return .error (.wrong .decimalInvalid ⟨start, stop⟩)
  else return .ok n

/-- Takes the last part off a level, to repeat it. -/
def repeatable (level : Level) : Reading (Expr × Level) :=
  match level.items with
  | item :: items =>
    if item.isRepeatable then return (item, { level with items })
    else refuseHere .nothingRepeated
  | [] => refuseHere .nothingRepeated

/-- Passes over the sign that prefers few rounds. -/
def passLazy : Reading Unit := do
  if (← peek?) = some '?' then bump

/-- Reads a sign of repetition. -/
def repetition (level : Level) (least : Nat) (most : Option Nat) : Reading Level := do
  let (body, level) ← repeatable level
  bump
  passLazy
  return level.add (.repeated ⟨body.place.start, ← position⟩ body least most)

/-- Refuses a repetition whose brace is not closed. -/
def countGoesOn (start : Nat) : Reading Unit := do
  if (← peek?).isNone then refuse .countUnclosed start (← position)

/-- Reads how often a part is repeated, up to the closing brace. -/
def counts (start : Nat) : Reading (Nat × Option Nat) := do
  advance
  countGoesOn start
  let least ← decimal
  countGoesOn start
  if (← peek?) = some ',' then
    advance
    countGoesOn start
    let least ← liftM least
    if (← peek?) = some '\x7d' then return (least, none)
    else
      let most ← liftM (← decimal)
      return (least, some most)
  else
    let least ← liftM least
    return (least, some least)

/-- Reads a counted repetition. -/
def countedRepetition (level : Level) : Reading Level := do
  let start ← position
  let (body, level) ← repeatable level
  let (least, most) ← counts start
  if (← peek?) ≠ some '\x7d' then refuse .countUnclosed start (← position)
  else
    advance
    passLazy
    let stop ← position
    if most.any (· < least) then refuse .countOrder start stop
    else return level.add (.repeated ⟨body.place.start, stop⟩ body least most)

/-- Reads a part that consists of one character or one escape. -/
def atom : Reading Expr := do
  let here ← position
  let place : Stretch := ⟨here, here + 1⟩
  match ← peek? with
  | some '\\' => escape
  | some '.' => bump; return .any place
  | some '^' => bump; return .assertion place .lineStart
  | some '$' => bump; return .assertion place .lineEnd
  | some c => bump; return .literal ⟨place, c, false⟩
  | none => return .empty ⟨here, here⟩

/-- Reads to the end of the pattern. Every round passes over a character, so
    the length of the text bounds their number. -/
def parseFrom : Nat → Level → List OpenGroup → Reading Expr
  | 0, level, _ => return level.close (← position)
  | fuel + 1, level, outer => do
    skip
    let here ← position
    match ← peek? with
    | none =>
      match outer with
      | [] => return level.close here
      | group :: _ => refuse .groupUnclosed group.start (group.start + 1)
    | some '(' =>
      match ← groupHead with
      | .flags changes =>
        applyVerbose changes
        parseFrom fuel (level.add (.flags ⟨here, ← position⟩ changes)) outer
      | .group captures changes =>
        let verbose := (← get).verbose
        applyVerbose changes
        parseFrom fuel (.new (← position)) (⟨here, captures, changes, level, verbose⟩ :: outer)
    | some ')' =>
      match outer with
      | [] => refuseNext .groupUnopened
      | group :: outer =>
        modify fun cursor => { cursor with verbose := group.verbose }
        bump
        let whole : Expr :=
          .group ⟨group.start, here + 1⟩ group.captures group.changes (level.close here)
        parseFrom fuel (group.before.add whole) outer
    | some '|' =>
      bump
      parseFrom fuel (level.branch here) outer
    | some '[' => parseFrom fuel (level.add (← bracket)) outer
    | some '?' => parseFrom fuel (← repetition level 0 (some 1)) outer
    | some '*' => parseFrom fuel (← repetition level 0 none) outer
    | some '+' => parseFrom fuel (← repetition level 1 none) outer
    | some '\x7b' => parseFrom fuel (← countedRepetition level) outer
    | some _ => parseFrom fuel (level.add (← atom)) outer

/-- The tree of a pattern. -/
def parse (pattern : List Char) : Except Refusal Expr := do
  let (tree, _) ← (parseFrom (pattern.length + 1) (.new 0) []).run (.ofPattern pattern)
  match tree.tooDeep? 0 with
  | some place => throw (.wrong .nesting place)
  | none => return tree

end Pattern

end Rerun
