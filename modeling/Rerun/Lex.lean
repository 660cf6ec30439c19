import Rerun.Script

/-!
# Lexical State

No grammar of SQL is involved in reading a script. All that is carried from
line to line is whether the text stands in code, in a block comment or in a
quoted literal, so that a keyword inside a comment or a literal is never
taken for a statement.

The rules look at one unit of text and the unit after it. `step` is the
whole table of rules; `walk` applies it along a line. Where a rule consumes
two units at once, `walk` passes over the second one, and a pair that would
reach past the end of the line ends with the line.

The same rules read characters and bytes. Every rule tests for an ASCII
character, and the bytes of any other character are never ASCII, so the two
readings agree whenever the literal was opened by one of the three quotes. A
literal may also be said to be open under an arbitrary character; it is then
closed by the low byte of that character's code point, which only the
reading by bytes can see.

Parentheses are counted in 32 bits with a sign. A count that leaves the range
comes back at its other end, which takes more than two thousand million
parentheses of one kind.

## Main definitions

* `LexState`: Where a line boundary stands.
* `TextUnit`: Characters and bytes as units of text.
* `wrap32`: A number in 32 bits with a sign.
* `LexState.step`: What one unit, in view of the next, does to the state.
* `LexState.walk`: The code of a line and the state at its end.
* `LexState.advance`: A line's end state, whether it holds a semicolon, and
  its balance of parentheses.
* `codeOnly`: A text with comments and literals blanked out.

## Theorems

* `wrap32_wrap32_add`, `wrap32_add_wrap32`: A sum of numbers that were brought
  into range.
* `wrap32_eq_self`: A number that fits is left as it is.
* `natAbs_wrap32_le`: No number gets larger.
* `LexState.length_walk`: Each unit of a line is either code or hidden.
* `LexState.natAbs_depth_le`: A line is at least as long as its parentheses
  are out of balance.
-/

namespace Rerun

/-- The lexical context at a line boundary. -/
inductive LexState where
  /-- Plain SQL. -/
  | code
  /-- Inside a block comment. -/
  | blockComment
  /-- Inside a literal opened by the given quote. -/
  | quoted (quote : Char)
deriving DecidableEq, Repr

/-- A unit of text that the lexical rules can test. `unit c` is the unit to
    compare with where a rule speaks of the character `c`. -/
class TextUnit (α : Type) where
  unit : Char → α

/-- A character stands for itself. -/
instance : TextUnit Char where
  unit c := c

/-- A byte stands for the characters whose code point ends in it. -/
instance : TextUnit UInt8 where
  unit c := c.toNat.toUInt8

/-- A number in 32 bits with a sign: the one from `-0x80000000` to `0x7FFFFFFF`
    that differs from it by a multiple of `0x100000000`. -/
def wrap32 (n : Int) : Int :=
  n.bmod 0x100000000

/-- A sum comes out the same if its first part was brought into range before. -/
@[simp]
theorem wrap32_wrap32_add (a b : Int) : wrap32 (wrap32 a + b) = wrap32 (a + b) :=
  Int.bmod_add_bmod

/-- A sum comes out the same if its second part was brought into range before. -/
@[simp]
theorem wrap32_add_wrap32 (a b : Int) : wrap32 (a + wrap32 b) = wrap32 (a + b) :=
  Int.add_bmod_bmod

@[simp]
theorem wrap32_wrap32 (n : Int) : wrap32 (wrap32 n) = wrap32 n :=
  Int.bmod_bmod

/-- A number that fits is left as it is. -/
theorem wrap32_eq_self {n : Int} (hlow : -0x80000000 ≤ n) (hhigh : n < 0x80000000) :
    wrap32 n = n := by
  unfold wrap32
  exact Int.bmod_eq_of_le (by omega) (by omega)

/-- A number does not get larger by being brought into range. -/
theorem natAbs_wrap32_le (n : Int) : (wrap32 n).natAbs ≤ n.natAbs := by
  by_cases hfits : -0x80000000 ≤ n ∧ n < 0x80000000
  · exact Nat.le_of_eq (congrArg Int.natAbs (wrap32_eq_self hfits.1 hfits.2))
  · have hlow : -0x80000000 ≤ wrap32 n := Int.le_bmod (by decide)
    have hhigh : wrap32 n < 0x80000000 := Int.bmod_lt (by decide)
    omega

namespace LexState

variable {α : Type} [BEq α] [TextUnit α]

open TextUnit

/-- What one unit does: it starts a line comment, it is code, or it is
    hidden. A hidden unit leads to a state, and may take the unit after it
    along. -/
inductive Step where
  | comment
  | code
  | hide (next : LexState) (pair : Bool)
deriving DecidableEq, Repr

/-- The characters that open a literal: apostrophe, quotation mark and
    grave accent. -/
def quotes : List Char := ['\x27', '\x22', '\x60']

/-- The lexical rules. Block comments do not nest. A quote written twice
    stands for itself in every literal, and a backslash takes the unit after
    it along except between grave accents. -/
def step (state : LexState) (a : α) (next : Option α) : Step :=
  let followed (c : Char) : Bool := next.any (· == unit c)
  match state with
  | code =>
    -- The comment markers are tested before the quotes.
    if a == unit '-' && followed '-' then .comment
    else if a == unit '/' && followed '*' then .hide blockComment true
    else
      match quotes.find? fun q => a == unit q with
      | some q => .hide (quoted q) false
      | none => .code
  | blockComment =>
    if a == unit '*' && followed '/' then .hide code true else .hide blockComment false
  | quoted q =>
    if a == unit '\\' && !(unit q == (unit '\x60' : α)) then .hide (quoted q) true
    else if a == unit q then
      if followed q then .hide (quoted q) true else .hide code false
    else .hide (quoted q) false

/-- Walks along a line. The list has one entry for each unit: the unit itself
    where it is code, and nothing where it is hidden. `skip` says that the
    first unit belongs to a pair already read. -/
def walk (state : LexState) (skip : Bool) : List α → List (Option α) × LexState
  | [] => ([], state)
  | a :: rest =>
    -- The second unit of a pair is hidden and decides nothing.
    if skip then
      let (seen, last) := walk state false rest
      (none :: seen, last)
    else
      match step state a rest.head? with
      -- A line comment hides the rest of the line and ends with it.
      | .comment => (none :: rest.map fun _ => none, state)
      | .code =>
        let (seen, last) := walk state false rest
        (some a :: seen, last)
      | .hide next pair =>
        let (seen, last) := walk next pair rest
        (none :: seen, last)

/-- Each unit of a line is either code or hidden. -/
theorem length_walk (state : LexState) (skip : Bool) (line : List α) :
    (walk state skip line).1.length = line.length := by
  fun_induction walk state skip line <;> simp_all

/-- What a line does to the lexical state. -/
structure Effect where
  /-- The state at the end of the line. -/
  last : LexState
  /-- Whether a semicolon stands in the code of the line. -/
  terminated : Bool
  /-- Opening minus closing parentheses in the code of the line, in 32 bits. -/
  depth : Int
deriving DecidableEq, Repr

/-- Lexes one line, given without its terminator. -/
def advance (state : LexState) (line : List α) : Effect :=
  let (seen, last) := walk state false line
  let count (c : Char) : Nat := seen.countP fun u => u.any (· == unit c)
  { last
    terminated := 0 < count ';'
    depth := wrap32 ((count '(' : Int) - (count ')' : Int)) }

/-- A line has at least as many units as its parentheses are out of balance. -/
theorem natAbs_depth_le (state : LexState) (line : List α) :
    (state.advance line).depth.natAbs ≤ line.length := by
  have hcount : ∀ c : Char,
      (walk state false line).1.countP (fun u => u.any (· == unit c)) ≤ line.length := by
    intro c
    rw [← length_walk state false line]
    exact List.countP_le_length
  have hopen := hcount '('
  have hclose := hcount ')'
  refine Nat.le_trans (natAbs_wrap32_le _) ?_
  dsimp only
  omega

/-- The state after some lines. -/
def afterLines (state : LexState) (lines : List (List α)) : LexState :=
  lines.foldl (fun s line => (s.advance line).last) state

end LexState

/-- A text with each character inside a comment or a literal replaced by a
    space. Positions are those of the text. -/
def codeOnly (text : List Char) : List Char :=
  (LexState.code.walk false text).1.map fun c => c.getD ' '

/-- Blanking keeps every position. -/
@[simp]
theorem length_codeOnly (text : List Char) : (codeOnly text).length = text.length := by
  simp [codeOnly, LexState.length_walk]

end Rerun
