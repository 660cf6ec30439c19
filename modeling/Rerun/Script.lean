import Rerun.Text.Utf8

/-!
# Scripts and Their Lines

A script is its text. It is read line by line, and each line keeps the
terminator it came with, so that writing the lines back gives the same text,
byte for byte. A line feed ends a line; a carriage return right before it
belongs to the terminator, and one anywhere else is an ordinary character.

A byte order mark may open a script. It is no part of the first line's
content as far as statements are concerned, so it is set aside before the
lines are looked at and put back when they are written.

## Main definitions

* `Terminator`, `Line`: A line and what ended it.
* `splitLines`, `joinLines`: From a text to its lines and back.
* `Script`: A text, with the views `lines`, `mark` and `body`.
* `LineEnding`: The terminators a script uses.
* `Script.ofBytes`: A script read from bytes.

## Theorems

* `joinLines_splitLines`: Splitting loses nothing.
-/

namespace Rerun

/-- What ends a line. Only the last line of a text can have no terminator. -/
inductive Terminator where
  | lf
  | crlf
  | missing
deriving DecidableEq, Repr

namespace Terminator

/-- The characters of a terminator. -/
def chars : Terminator → List Char
  | lf => ['\n']
  | crlf => ['\r', '\n']
  | missing => []

end Terminator

/-- One line: its content and the terminator that followed it. -/
structure Line where
  content : List Char
  ending : Terminator
deriving DecidableEq, Repr

namespace Line

/-- The characters of a line, terminator included. -/
def chars (line : Line) : List Char :=
  line.content ++ line.ending.chars

/-- The number of bytes of a line, terminator included. -/
def size (line : Line) : Nat :=
  Utf8.size line.chars

end Line

/-- The lines of a text, each with its own terminator. -/
def splitLines : List Char → List Line
  | [] => []
  | '\n' :: rest => ⟨[], .lf⟩ :: splitLines rest
  | '\r' :: '\n' :: rest => ⟨[], .crlf⟩ :: splitLines rest
  | c :: rest =>
    match splitLines rest with
    | [] => [⟨[c], .missing⟩]
    | line :: lines => ⟨c :: line.content, line.ending⟩ :: lines

/-- The text made of some lines. -/
def joinLines (lines : List Line) : List Char :=
  lines.flatMap Line.chars

/-- Splitting a text into lines loses nothing. -/
theorem joinLines_splitLines (text : List Char) : joinLines (splitLines text) = text := by
  fun_induction splitLines text with
  | case1 => rfl
  | case2 rest ih => simpa [joinLines, Line.chars, Terminator.chars] using ih
  | case3 rest ih => simpa [joinLines, Line.chars, Terminator.chars] using ih
  | case4 c rest _ _ h ih =>
    rw [h] at ih
    simpa [joinLines, Line.chars, Terminator.chars] using ih
  | case5 c rest _ _ line lines h ih =>
    rw [h] at ih
    simpa [joinLines, Line.chars] using ih

/-- The terminators a script uses. -/
inductive LineEnding where
  /-- Every terminated line ends with a line feed. -/
  | lf
  /-- Every terminated line ends with a carriage return and a line feed. -/
  | crlf
  /-- Both occur. -/
  | mixed
  /-- No line is terminated. -/
  | none
deriving DecidableEq, Repr

namespace LineEnding

/-- The convention that a list of lines follows. -/
def ofLines (lines : List Line) : LineEnding :=
  let has (t : Terminator) := lines.any fun line => line.ending == t
  match has .lf, has .crlf with
  | true, true => mixed
  | true, false => lf
  | false, true => crlf
  | false, false => none

/-- The convention, as a reader is told about it. -/
def text : LineEnding → String
  | lf => "LF"
  | crlf => "CRLF"
  | mixed => "mixed"
  | none => "none"

/-- The name of the convention in a structured report. -/
def name : LineEnding → String
  | lf => "Lf"
  | crlf => "CrLf"
  | mixed => "Mixed"
  | none => "None"

end LineEnding

/-- The byte order mark. -/
def byteOrderMark : Char := '\uFEFF'

/-- A text split after the byte order mark that may open it. -/
def splitMark : List Char → List Char × List Char
  | [] => ([], [])
  | c :: rest => if c = byteOrderMark then ([c], rest) else ([], c :: rest)

/-- A SQL script held in memory. -/
structure Script where
  text : List Char
deriving DecidableEq, Repr

namespace Script

/-- A script read from bytes, or the offset of the first byte that is not
    UTF-8. -/
def ofBytes (bytes : List UInt8) : Except Nat Script :=
  Script.mk <$> Utf8.decode bytes

/-- The bytes the script is stored as. -/
def bytes (script : Script) : List UInt8 :=
  Utf8.encode script.text

/-- The lines of the script. A byte order mark is part of the first one. -/
def lines (script : Script) : List Line :=
  splitLines script.text

/-- The byte order mark of the script, if it has one. -/
def mark (script : Script) : List Char :=
  match script.lines with
  | [] => []
  | line :: _ => (splitMark line.content).1

/-- The lines of the script without its byte order mark. There are as many
    of them as there are lines: a script that is nothing but a mark has one
    line, and it is empty. -/
def body (script : Script) : List Line :=
  match script.lines with
  | [] => []
  | line :: rest => ⟨(splitMark line.content).2, line.ending⟩ :: rest

/-- The terminators the script uses. -/
def lineEnding (script : Script) : LineEnding :=
  LineEnding.ofLines script.lines

end Script

end Rerun
