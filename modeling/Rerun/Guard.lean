import Rerun.Keyword
import Rerun.Lex

/-!
# Guards

A guard makes a `CREATE TABLE` safe to run again: `IF NOT EXISTS`, in any
case. The same clause without its last letter is a common misspelling, and
it is found as well, so that it can be mended.

A guard may stand after the head of the statement, anywhere in the code
before the column list: comments and quoted names there are blanked out
first, so a table called `` `if not exists` `` is no guard. When the head
stands alone on its line, the guard may open the next line instead.

Positions are counted in characters of the text that was searched, and
`Guard.bytes` gives them in bytes.

## Main definitions

* `Spelling`: The two spellings of the clause.
* `Guard`: A clause and where it stands.
* `Guard.token?`: The clause at the front of a text.
* `Guard.search`: The first clause in a text.
* `Guard.find?`: The guard after the head of a `CREATE TABLE`.
* `Guard.leading?`: The guard at the start of a line.
-/

namespace Rerun

open Text Keyword

/-- How a guard clause is spelled. -/
inductive Spelling where
  /-- `IF NOT EXISTS`. -/
  | proper
  /-- `IF NOT EXIST`, which no database accepts. -/
  | typo
deriving DecidableEq, Repr

/-- A guard clause and the characters it takes up. -/
structure Guard where
  spelling : Spelling
  start : Nat
  stop : Nat
deriving DecidableEq, Repr

namespace Guard

/-- The clause as it is written into a script. -/
def clause : List Char := "IF NOT EXISTS".toList

/-- The words that both spellings share. -/
def words : List (List Char) := ["IF".toList, "NOT".toList, "EXIST".toList]

/-- Reads a guard clause from the front of a text. Another word character
    right after it makes it no guard at all. -/
def token? (text : List Char) : Option (Spelling × List Char) := do
  let rest ← phrase? words text
  match word? ['S'] rest with
  | some tail => if atBoundary tail then some (.proper, tail) else none
  | none => if atBoundary rest then some (.typo, rest) else none

/-- The first guard clause that begins a word. `inWord` says whether the
    character before the text belongs to a word, and `pos` is the position of
    the text's first character. -/
def search (inWord : Bool) (pos : Nat) : List Char → Option Guard
  | [] => none
  | c :: rest =>
    -- Inside a word no clause can begin.
    match if inWord then none else token? (c :: rest) with
    | some (spelling, tail) => some ⟨spelling, pos, pos + ((c :: rest).length - tail.length)⟩
    | none => search (isWord c) (pos + 1) rest

/-- Where a guard may stand after the head of a `CREATE TABLE`: the code
    before the column list. -/
def region (afterHead : List Char) : List Char :=
  (codeOnly afterHead).takeWhile fun c => c != '('

/-- The guard in the text that follows the head of a `CREATE TABLE`. -/
def find? (afterHead : List Char) : Option Guard :=
  search false 0 (region afterHead)

/-- The guard that opens a line, after its indentation. -/
def leading? (line : List Char) : Option Guard := do
  let body := bodyOf line
  let (spelling, tail) ← token? body
  let start := (indentOf line).length
  return ⟨spelling, start, start + (body.length - tail.length)⟩

/-- The text with the clause replaced by its proper spelling. -/
def mend (guard : Guard) (text : List Char) : List Char :=
  text.take guard.start ++ clause ++ text.drop guard.stop

/-- The byte offsets of a guard in the text it was found in. -/
def bytes (guard : Guard) (text : List Char) : Nat × Nat :=
  (Utf8.size (text.take guard.start), Utf8.size (text.take guard.stop))

end Guard

end Rerun
