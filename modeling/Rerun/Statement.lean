import Rerun.TableName

/-!
# Statements

What the body of a line, that is the line without its indentation, says
about the statements of a script: which kind of statement it opens, whether
it opens one at all, and whether it carries on an unfinished `DROP TABLE`.

## Main definitions

* `Kind`: The kinds of statements that matter.
* `Statement.isComment`: Whether a line is a line comment.
* `Statement.kindOf`: The kind of statement a line opens.
* `Statement.opens`: Whether a line begins a new statement.
* `Statement.continuesDrop`: Whether an unfinished `DROP TABLE` goes on.
* `Statement.createHead?`: A line split after its `CREATE TABLE`.
* `Statement.isBareHead`: Whether nothing but the head stands on a line.
-/

namespace Rerun

open Text Keyword

/-- The kinds of statements that matter for running a script again. -/
inductive Kind where
  | createTable
  | dropTable
  | other
deriving DecidableEq, Repr

namespace Kind

/-- The kind, as a reader is told about it. -/
def text : Kind → String
  | createTable => "CREATE TABLE"
  | dropTable => "DROP TABLE"
  | other => "other"

/-- The name of the kind in a structured report. -/
def name : Kind → String
  | createTable => "CreateTable"
  | dropTable => "DropTable"
  | other => "Other"

/-- The table that a line opening a statement of this kind names. -/
def tableName? : Kind → List Char → Option (List Char)
  | createTable, body => TableName.ofCreate? body
  | dropTable, body => TableName.ofDrop? body
  | other, _ => none

end Kind

namespace Statement

/-- The two characters that start a line comment. -/
def commentMarker : List Char := ['-', '-']

/-- Whether a line is a line comment. -/
def isComment (body : List Char) : Bool :=
  startsWith commentMarker body

/-- Whether a line starts with a block comment. -/
def isBlockComment (body : List Char) : Bool :=
  startsWith ['/', '*'] body

/-- Whether a line opens with `DROP TABLE`. -/
def isDrop (body : List Char) : Bool :=
  (phrase? ["DROP".toList, "TABLE".toList] body).any atBoundary

/-- What follows `CREATE TABLE` and the ASCII blanks after it. -/
def afterCreate? (body : List Char) : Option (List Char) := do
  let rest ← phrase? ["CREATE".toList, "TABLE".toList] body
  if atBoundary rest then some (rest.dropWhile isGap) else none

/-- A line split after its `CREATE TABLE` and the ASCII blanks that follow,
    so that a guard placed between the parts lands before the name. -/
def createHead? (body : List Char) : Option (List Char × List Char) :=
  (afterCreate? body).map fun rest => (taken body rest, rest)

/-- The kind of statement a line opens. The word `TABLE` must be complete,
    so `CREATE TABLESPACE` is of no particular kind. -/
def kindOf (body : List Char) : Kind :=
  if isDrop body then .dropTable
  else if (createHead? body).isSome then .createTable
  else .other

/-- The keywords that begin a statement. -/
def openers : List (List Char) :=
  ["CREATE", "DROP", "ALTER", "INSERT", "UPDATE", "DELETE", "SELECT", "SET", "USE", "LOCK",
    "UNLOCK", "GRANT", "REVOKE", "TRUNCATE", "RENAME", "REPLACE", "CALL", "DELIMITER", "START",
    "BEGIN", "COMMIT", "ROLLBACK", "WITH"].map String.toList

/-- Whether a line begins a new statement. A block comment counts, because
    it may be a directive to the database. -/
def opens (body : List Char) : Bool :=
  isBlockComment body || openers.any fun w => (word? w body).any atBoundary

/-- Whether an unfinished `DROP TABLE` carries on to a line. It ends before a
    line that starts inside a comment or literal, a blank line, a line
    comment, or a line that begins another statement. -/
def continuesDrop (startsInCode : Bool) (body : List Char) : Bool :=
  startsInCode && !body.isEmpty && !isComment body && !opens body

/-- Whether a line holds nothing but `CREATE TABLE`, comments aside, so that
    the name and the guard may follow on the next line. -/
def isBareHead (body : List Char) : Bool :=
  (createHead? body).any fun (_, rest) => (codeOnly rest).all isBlank

/-- The guard that a line opening with `CREATE TABLE` carries. -/
def guardOf? (body : List Char) : Option Guard :=
  (createHead? body).bind fun (_, rest) => Guard.find? rest

end Statement

end Rerun
