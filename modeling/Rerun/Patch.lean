import Rerun.Statement

/-!
# Patching a Script

A script is made safe to run again by three transforms: an active
`DROP TABLE` is commented out, a `CREATE TABLE` without a guard receives one,
and a misspelled guard is mended. All of it happens in one pass over the
lines, and each line of the script becomes exactly one line of the result,
with the same terminator.

The pass is a transducer with a lookahead of one line. Between two lines it
knows the lexical state of what it has written so far, and its `Phase`:
whether the next line may carry on a `DROP TABLE` that is being commented
out, or holds the guard of a bare `CREATE TABLE` head. The state follows the
lines as they are written, not as they were read, so that a second pass over
the result sees the same states again.

## Main definitions

* `Rules`: Which transforms are applied.
* `Action`: What was done to a line.
* `commentOut`, `guardCreate`, `mendLeading`: The edits of single lines.
* `Patch.treat`: What becomes of one line.
* `Patch.run`: The pass over the lines.
* `Script.patch`: The result for a whole script.
* `Edit`, `Outcome`: One changed line, and the result of the pass.
-/

namespace Rerun

open Text

/-- Which transforms are applied. -/
structure Rules where
  /-- Comment out an active `DROP TABLE`. -/
  commentDrops : Bool := true
  /-- Add a guard to a `CREATE TABLE` that has none. -/
  insertGuards : Bool := true
  /-- Mend a misspelled guard. -/
  fixTypos : Bool := true
deriving DecidableEq, Repr

/-- What was done to a line. -/
inductive Action where
  | commentOut
  | insertGuard
  | fixTypo
  | keep
deriving DecidableEq, Repr

namespace Action

/-- The action, as a reader is told about it. -/
def text : Action → String
  | commentOut => "comment out"
  | insertGuard => "insert guard"
  | fixTypo => "fix guard typo"
  | keep => "no change"

/-- The name of the action in a structured report. -/
def name : Action → String
  | commentOut => "CommentOut"
  | insertGuard => "InsertGuard"
  | fixTypo => "NormalizeTypo"
  | keep => "NoChange"

end Action

/-- A line as it is written, and what was done to it. -/
structure Treated where
  action : Action
  text : List Char
deriving DecidableEq, Repr

namespace Treated

/-- A line written as it was read. -/
def kept (content : List Char) : Treated :=
  ⟨.keep, content⟩

end Treated

/-- A line with its statement commented out, after the indentation. -/
def commentOut (content : List Char) : List Char :=
  indentOf content ++ Statement.commentMarker ++ [' '] ++ bodyOf content

/-- The line of a `CREATE TABLE` with a guard between the head and the rest.
    A space is added on either side where it is needed. -/
def insertGuard (indent head rest : List Char) : List Char :=
  let lead := if head.getLast?.any isBlank then [] else [' ']
  let trail := if rest.isEmpty then [] else [' ']
  indent ++ head ++ lead ++ Guard.clause ++ trail ++ rest

/-- Applies the guard rules to a line that opens a `CREATE TABLE`.
    `guardFollows` says that the next line begins with the guard. -/
def guardCreate (rules : Rules) (content : List Char) (guardFollows : Bool) : Treated :=
  let indent := indentOf content
  match Statement.createHead? (bodyOf content) with
  | none => .kept content
  | some (head, rest) =>
    match Guard.find? rest with
    -- A clause that is there is mended or left, never doubled.
    | some guard =>
      if guard.spelling = .typo ∧ rules.fixTypos then
        ⟨.fixTypo, indent ++ head ++ guard.mend rest⟩
      else .kept content
    | none =>
      if guardFollows ∨ ¬ rules.insertGuards then .kept content
      else ⟨.insertGuard, insertGuard indent head rest⟩

/-- Mends a misspelled guard that opens a line. -/
def mendLeading (rules : Rules) (content : List Char) : Treated :=
  match Guard.leading? content with
  | some guard =>
    if guard.spelling = .typo ∧ rules.fixTypos then ⟨.fixTypo, guard.mend content⟩
    else .kept content
  | none => .kept content

/-- A line that was changed. -/
structure Edit where
  /-- The number of the line, counted from one. -/
  line : Nat
  action : Action
  kind : Kind
  table : Option (List Char)
  /-- The content before the edit, without terminator. -/
  before : List Char
  /-- The content after the edit, without terminator. -/
  after : List Char
deriving DecidableEq, Repr

namespace Patch

/-- What the next line may continue. -/
inductive Phase where
  /-- Nothing. -/
  | free
  /-- A `DROP TABLE` that is being commented out. -/
  | dropping (table : Option (List Char))
  /-- A bare `CREATE TABLE`, whose guard the next line holds. -/
  | guarding (table : Option (List Char))
deriving DecidableEq, Repr

/-- The state of the pass between two lines. -/
structure State where
  /-- The lexical state after the lines written so far. -/
  lex : LexState
  phase : Phase
deriving DecidableEq, Repr

/-- The state before the first line. -/
def State.start : State :=
  ⟨.code, .free⟩

/-- What becomes of one line. -/
structure Turn where
  treated : Treated
  /-- The kind of statement the line was found to belong to. -/
  kind : Kind
  table : Option (List Char)
  /-- Whether the line opens a `CREATE TABLE` that already has a proper
      guard. -/
  guarded : Bool
  /-- What the next line may continue. -/
  phase : Phase
deriving DecidableEq, Repr

/-- A line of no interest. -/
def pass (content : List Char) : Turn :=
  { treated := .kept content, kind := .other, table := none, guarded := false, phase := .free }

/-- A line of a `DROP TABLE` that is commented out. The statement goes on as
    long as no semicolon has been met, as if the line began in code. -/
def drop (table : Option (List Char)) (content : List Char) : Turn :=
  { treated := ⟨.commentOut, commentOut content⟩
    kind := .dropTable
    table
    guarded := false
    phase := if (LexState.code.advance content).terminated then .free else .dropping table }

/-- The guard that the line after a bare head begins with. It counts only if
    the head's line ends in code. -/
def guardBelow? (lex : LexState) (content : List Char) (next : Option (List Char)) :
    Option Guard :=
  if Statement.isBareHead (bodyOf content) ∧ (lex.advance content).last = .code then
    next.bind Guard.leading?
  else none

/-- A line that opens a `CREATE TABLE`. -/
def create (rules : Rules) (lex : LexState) (content : List Char) (next : Option (List Char)) :
    Turn :=
  let body := bodyOf content
  let below := guardBelow? lex content next
  let table :=
    if Statement.isBareHead body then next.bind TableName.ofContinuation?
    else TableName.ofCreate? body
  { treated := guardCreate rules content below.isSome
    kind := .createTable
    table
    guarded := (below.or (Statement.guardOf? body)).any fun guard => guard.spelling == .proper
    phase := if below.isSome then .guarding table else .free }

/-- A line that continues nothing. -/
def plain (rules : Rules) (lex : LexState) (content : List Char) (next : Option (List Char)) :
    Turn :=
  let body := bodyOf content
  if lex ≠ .code ∨ body.isEmpty ∨ Statement.isComment body then pass content
  else
    match Statement.kindOf body with
    | .dropTable => if rules.commentDrops then drop (TableName.ofDrop? body) content else pass content
    | .createTable => create rules lex content next
    | .other => pass content

/-- What becomes of one line, in view of the content of the next. -/
def treat (rules : Rules) (state : State) (content : List Char) (next : Option (List Char)) :
    Turn :=
  match state.phase with
  | .free => plain rules state.lex content next
  | .dropping table =>
    if Statement.continuesDrop (state.lex == .code) (bodyOf content) then drop table content
    else plain rules state.lex content next
  | .guarding table =>
    { treated := mendLeading rules content
      kind := .createTable
      table
      guarded := false
      phase := .free }

/-- The edit that a line's turn amounts to, if the line was changed. -/
def Turn.edit? (turn : Turn) (number : Nat) (content : List Char) : Option Edit :=
  if turn.treated.action = .keep then none
  else
    some
      { line := number
        action := turn.treated.action
        kind := turn.kind
        table := turn.table
        before := content
        after := turn.treated.text }

/-- The state after a line has had its turn. -/
def State.next (state : State) (turn : Turn) : State :=
  ⟨(state.lex.advance turn.treated.text).last, turn.phase⟩

/-- What the pass has produced. -/
structure Result where
  /-- The lines as written. -/
  lines : List Line
  edits : List Edit
  /-- The number of `CREATE TABLE` statements that already had a proper
      guard. -/
  guarded : Nat
  /-- The lexical state after the last line. -/
  last : LexState
deriving DecidableEq, Repr

/-- The pass over the lines, from a state and the number of the first of
    them. -/
def run (rules : Rules) (state : State) (number : Nat) : List Line → Result
  | [] => ⟨[], [], 0, state.lex⟩
  | line :: rest =>
    let turn := treat rules state line.content (rest.head?.map Line.content)
    let tail := run rules (state.next turn) (number + 1) rest
    { lines := ⟨turn.treated.text, line.ending⟩ :: tail.lines
      edits := (turn.edit? number line.content).toList ++ tail.edits
      guarded := (if turn.guarded then 1 else 0) + tail.guarded
      last := tail.last }

end Patch

/-- The result of patching a script. -/
structure Outcome where
  /-- The text of the patched script. -/
  text : List Char
  /-- The changed lines, in order. -/
  edits : List Edit
  /-- The number of lines, the same before and after. -/
  lines : Nat
  /-- The number of `CREATE TABLE` statements that already had a proper
      guard. -/
  guarded : Nat
  /-- The lexical state at the end. Anything but code means that an
      unterminated comment or literal has swallowed the tail. -/
  last : LexState
deriving DecidableEq, Repr

namespace Outcome

/-- Whether any line was changed. -/
def isChanged (outcome : Outcome) : Bool :=
  !outcome.edits.isEmpty

/-- The number of lines on which an action was taken. -/
def count (outcome : Outcome) (action : Action) : Nat :=
  outcome.edits.countP fun edit => edit.action == action

end Outcome

namespace Script

/-- Makes a script safe to run again. This never fails: a line that is not
    understood is left as it is. -/
def patch (rules : Rules) (script : Script) : Outcome :=
  let result := Patch.run rules .start 1 script.body
  { text := script.mark ++ joinLines result.lines
    edits := result.edits
    lines := script.lines.length
    guarded := result.guarded
    last := result.last }

end Script

end Rerun
