import Rerun.Statement

/-!
# Statement Spans

The lines that each statement of a script occupies. A statement opens on a
line that starts in code and is neither blank nor a comment; it runs to the
first line with a semicolon in its code. A statement that was never
terminated has to end somewhere too: a `DROP TABLE` ends where it no longer
carries on, and any other statement ends before the next line that begins a
statement outside all parentheses.

The script is read once, one line at a time. `Cursor` holds what the lines
read so far leave behind, and `Cursor.read` says what the next line does: it
may close the open span, open a new one, or both.

When the head of a `CREATE TABLE` ends its line, the name and the guard may
stand on the next line. They are filled in after all spans are known, since
only then is it clear that the next line belongs to the span.

## Main definitions

* `Span`: The extent of one statement, with its table and guard.
* `Cursor`: The state of a scan between two lines.
* `Cursor.read`: What one line does to a scan.
* `Script.spans`: The statement spans of a script.
* `Summary`: The number of statements of each kind.
-/

namespace Rerun

open Text

/-- The extent of one statement. -/
structure Span where
  kind : Kind
  /-- The first line, counted from one. -/
  startLine : Nat
  /-- The last line, counted from one. -/
  endLine : Nat
  /-- The byte offset at which the first line starts. -/
  startOffset : Nat
  /-- The byte offset just past the last line's terminator. -/
  endOffset : Nat
  /-- The leading blanks of the first line. -/
  indent : List Char
  table : Option (List Char)
  /-- The guard on a `CREATE TABLE`. -/
  guard : Option Spelling
  /-- Whether a semicolon closed the statement. -/
  terminated : Bool
deriving DecidableEq, Repr

/-- Whether a line can open a statement: it starts in code and is neither
    blank nor a comment. -/
def Statement.eligible (startsInCode : Bool) (body : List Char) : Bool :=
  startsInCode && !body.isEmpty && !isComment body && !isBlockComment body

namespace Span

/-- Whether an open span ends before a line. `depth` is the number of
    parentheses the span has left open, in 32 bits. -/
def stopsBefore (span : Span) (depth : Int) (startsInCode : Bool) (body : List Char) : Bool :=
  match span.kind with
  | .dropTable => !Statement.continuesDrop startsInCode body
  | _ => Statement.eligible startsInCode body && depth ≤ 0 && Statement.opens body

/-- The span that a line opens, as long as it goes no further. -/
def opening (number offset size : Nat) (content : List Char) (terminated : Bool) : Span :=
  let body := bodyOf content
  let kind := Statement.kindOf body
  { kind
    startLine := number
    endLine := number
    startOffset := offset
    endOffset := offset + size
    indent := indentOf content
    table := kind.tableName? body
    guard := if kind = .createTable then (Statement.guardOf? body).map Guard.spelling else none
    terminated }

/-- The span grown by one line. -/
def grow (span : Span) (number stop : Nat) (terminated : Bool) : Span :=
  { span with endLine := number, endOffset := stop, terminated }

/-- The span with the guard and the name that the line after a bare head
    carries. Only a `CREATE TABLE` that goes on past its first line and has
    not named its table there is concerned. -/
def fillSplit (lines : List Line) (span : Span) : Span :=
  if span.kind = .createTable ∧ span.table = none ∧ span.startLine < span.endLine then
    match lines[span.startLine]? with
    | none => span
    | some next =>
      { span with
        guard := span.guard.or ((Guard.leading? next.content).map Guard.spelling)
        table := TableName.ofContinuation? next.content }
  else span

end Span

/-- The state of a scan between two lines. -/
structure Cursor where
  /-- The lexical state. -/
  lex : LexState
  /-- The number of the next line, counted from one. -/
  number : Nat
  /-- The byte offset at which the next line starts. -/
  offset : Nat
  /-- The span that is still open, with the parentheses it has left open. They
      are counted in 32 bits. -/
  current : Option (Span × Int)
deriving DecidableEq, Repr

namespace Cursor

/-- The cursor before the first line of a script. -/
def start : Cursor :=
  { lex := .code, number := 1, offset := 0, current := none }

/-- Reads one line, given with the number of bytes it takes up: the spans
    that are finished by it, and the cursor after it. -/
def read (cursor : Cursor) (content : List Char) (size : Nat) : List Span × Cursor :=
  let startsInCode := cursor.lex == .code
  let effect := cursor.lex.advance content
  let body := bodyOf content
  let stop := cursor.offset + size
  let onward (current : Option (Span × Int)) : Cursor :=
    { lex := effect.last, number := cursor.number + 1, offset := stop, current }
  let openNew (finished : List Span) : List Span × Cursor :=
    if Statement.eligible startsInCode body then
      let span := Span.opening cursor.number cursor.offset size content effect.terminated
      if effect.terminated then (finished ++ [span], onward none)
      else (finished, onward (some (span, effect.depth)))
    else (finished, onward none)
  match cursor.current with
  | none => openNew []
  | some (span, depth) =>
    if span.stopsBefore depth startsInCode body then openNew [span]
    else
      let grown := span.grow cursor.number stop effect.terminated
      if effect.terminated then ([grown], onward none)
      else ([], onward (some (grown, wrap32 (depth + effect.depth))))

/-- Reads the remaining lines. `lead` counts bytes that stand before the
    first of them and belong to it. A span that is still open at the end is
    finished by the end. -/
def scan (cursor : Cursor) (lead : Nat) : List Line → List Span
  | [] => (cursor.current.map Prod.fst).toList
  | line :: rest =>
    let (finished, next) := cursor.read line.content (lead + line.size)
    finished ++ next.scan 0 rest

end Cursor

namespace Script

/-- The statement spans of a script, in order. -/
def spans (script : Script) : List Span :=
  (Cursor.start.scan (Utf8.size script.mark) script.body).map (Span.fillSplit script.lines)

end Script

/-- The number of statements of each kind. -/
structure Summary where
  createTable : Nat
  dropTable : Nat
  other : Nat
deriving DecidableEq, Repr

namespace Summary

/-- The number of spans of each kind. -/
def ofSpans (spans : List Span) : Summary :=
  let count (kind : Kind) : Nat := spans.countP fun span => span.kind == kind
  { createTable := count .createTable, dropTable := count .dropTable, other := count .other }

/-- The number of all statements. -/
def total (summary : Summary) : Nat :=
  summary.createTable + summary.dropTable + summary.other

end Summary

end Rerun
