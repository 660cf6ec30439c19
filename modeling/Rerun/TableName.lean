import Rerun.Guard

/-!
# Table Names

The name a `CREATE TABLE` or `DROP TABLE` speaks of, as far as its opening
line shows it. A name is a sequence of parts joined by dots, each of them
bare or quoted by grave accents or quotation marks; it is reported without
its quotes.

A name is read by walking through it once. What the walk has to remember is
only whether it stands at the start of a part, inside a bare part, inside a
quoted part or right after one. A dot that no part follows is not taken.

The optional clause before a name (`IF NOT EXISTS`, `IF EXISTS`) is read as a
clause only if a name follows it. Otherwise its first word would itself be
the name; since no table is called that, there is no name.

## Main definitions

* `TableName.rest?`: What follows the name at the front of a text.
* `TableName.raw?`: That name as written.
* `TableName.unquote`: A name without its quotes.
* `TableName.ofCreate?`, `TableName.ofDrop?`: The name on an opening line.
* `TableName.ofContinuation?`: The name on the line after a bare head.
-/

namespace Rerun

namespace TableName

open Text Keyword

/-- Where a walk through a name stands. -/
inductive Spot where
  /-- At the start of a part. -/
  | fresh
  /-- Inside a bare part. -/
  | bare
  /-- Inside a part quoted by the given character. -/
  | quoted (quote : Char)
  /-- Right after a quoted part. -/
  | closed
deriving DecidableEq, Repr

/-- A character that a bare part may hold. -/
def isBare (c : Char) : Bool :=
  !isGap c && !(['(', ';', ',', '.', '\x60', '\x22'].contains c)

/-- What follows the name at the front of a text, for a walk that stands at
    the given spot. A part must not be empty unless it is quoted, and a
    quoted part must be closed. -/
def walk : Spot → List Char → Option (List Char)
  | .fresh, [] => none
  | .fresh, c :: rest =>
    if c = '\x60' ∨ c = '\x22' then walk (.quoted c) rest
    else if isBare c then walk .bare rest
    else none
  | .quoted _, [] => none
  | .quoted q, c :: rest => if c = q then walk .closed rest else walk (.quoted q) rest
  | .bare, [] => some []
  | .bare, c :: rest =>
    if isBare c then walk .bare rest
    else if c = '.' then some ((walk .fresh rest).getD (c :: rest))
    else some (c :: rest)
  | .closed, [] => some []
  | .closed, c :: rest =>
    if c = '.' then some ((walk .fresh rest).getD (c :: rest)) else some (c :: rest)

/-- What follows the name at the front of a text. -/
def rest? (text : List Char) : Option (List Char) :=
  walk .fresh text

/-- The name at the front of a text, as written. -/
def raw? (text : List Char) : Option (List Char) :=
  (rest? text).map (taken text)

/-- The characters that may surround a part of a name. -/
def isQuoteMark (c : Char) : Bool :=
  ['\x60', '\x22', '[', ']'].contains c

/-- A name without its quotes: each piece between dots loses the quoting
    characters at its two ends. -/
def unquote (name : List Char) : List Char :=
  ['.'].intercalate ((splitOn '.' name).map (stripBoth isQuoteMark))

/-- A raw name that stands for no table: the first word of a clause that no
    name follows, or a comment. -/
def isNoName (name : List Char) : Bool :=
  name.map Char.toUpper == ['I', 'F'] || startsWith ['-', '-'] name || startsWith ['/', '*'] name

/-- The name in a text that may begin with a clause. `clause?` reads the
    clause, up to and including the gap after it. -/
def afterClause? (clause? : List Char → Option (List Char)) (text : List Char) :
    Option (List Char) := do
  let name ← ((clause? text).bind raw?).or (raw? text)
  if isNoName name then none else some (unquote name)

/-- Reads `IF NOT EXISTS`, in either spelling, and the gap after it. -/
def guardClause? (text : List Char) : Option (List Char) := do
  let rest ← phrase? Guard.words text
  gap? ((word? ['S'] rest).getD rest)

/-- Reads `IF EXISTS` and the gap after it. -/
def existsClause? (text : List Char) : Option (List Char) := do
  let rest ← phrase? ["IF".toList, "EXISTS".toList] text
  gap? rest

/-- The table that a line opening with `CREATE TABLE` names. -/
def ofCreate? (body : List Char) : Option (List Char) := do
  let rest ← phrase? ["CREATE".toList, "TABLE".toList] body
  afterClause? guardClause? (rest.dropWhile isGap)

/-- The table that a line opening with `DROP TABLE` names. -/
def ofDrop? (body : List Char) : Option (List Char) := do
  let rest ← phrase? ["DROP".toList, "TABLE".toList] body
  let rest ← gap? rest
  afterClause? existsClause? rest

/-- The table that a line names when the line before it was a bare
    `CREATE TABLE`: a guard at its start is passed over, and the name runs to
    the next blank, parenthesis, semicolon or comma. -/
def ofContinuation? (line : List Char) : Option (List Char) :=
  let body := bodyOf line
  let rest :=
    match Guard.token? body with
    | some (_, tail) => bodyOf tail
    | none => body
  let name := rest.takeWhile fun c => !isBlank c && !(['(', ';', ','].contains c)
  if name.isEmpty || startsWith ['-', '-'] name then none else some (unquote name)

end TableName

end Rerun
