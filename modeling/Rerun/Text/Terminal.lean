import Rerun.Text.Ranges

/-!
# Control Sequences

A text for a terminal may hold control sequences: an escape character and
what follows it, up to where the sequence ends. Where a text goes to a file
or a pipe they are taken out, together with the control characters that are
not blanks.

The blanks among the control characters are obeyed in the middle of a
sequence too, so they are kept there. What comes after such a blank is
ordinary text, and the sequence is taken up again at the next character that
is to be taken out.

## Main definitions

* `Sequence`: How much of a control sequence has been read.
* `Sequence.next`: The same after one more character.
* `Sequence.shows`: Whether a character is shown.
* `Terminal.strip`: A text without its control sequences.
-/

namespace Rerun

/-- How much of a control sequence has been read. -/
inductive Sequence where
  /-- Nothing. -/
  | none
  /-- An escape character. -/
  | escape
  /-- An escape character and marks after it. -/
  | marked
  /-- The beginning of a control function, which a letter ends. -/
  | control
  /-- The beginning of a text for the device. -/
  | device
  /-- The same, with parameters. -/
  | deviceParameters
  /-- The same, with marks. -/
  | deviceMarks
  /-- Part of a text that a closing character ends. -/
  | string
  /-- Part of a command to the operating system, which a bell ends. -/
  | command
deriving DecidableEq, Repr

namespace Sequence

open Text

/-- Whether a character ends a string: one of its bytes is the closing
    one. -/
def closes (c : Char) : Bool :=
  (String.utf8EncodeChar c).contains 0x9C

/-- How much of a sequence has been read after a character that follows the
    escape character. -/
def afterEscape (c : Char) : Sequence :=
  match c with
  | '[' => control
  | ']' => command
  | 'P' => device
  | 'X' | '^' | '_' => string
  | _ =>
    if between 0x20 0x2F c then marked
    else if between 0x30 0x7E c then none
    else escape

/-- How much of a sequence has been read after one more character. Two
    control characters break any sequence off, and the escape character
    begins a new one. -/
def next (sequence : Sequence) (c : Char) : Sequence :=
  if c = '\x18' ∨ c = '\x1a' then none
  else if c = '\x1b' then escape
  else
    match sequence with
    | none => none
    | escape => afterEscape c
    | marked => if between 0x30 0x7E c then none else marked
    | control => if between 0x40 0x7E c then none else control
    | device =>
      if between 0x20 0x2F c then deviceMarks
      else if between 0x30 0x3F c then deviceParameters
      else if between 0x40 0x7E c then string
      else device
    | deviceParameters =>
      if between 0x20 0x2F c then deviceMarks
      else if between 0x3C 0x7E c then string
      else deviceParameters
    | deviceMarks => if between 0x30 0x7E c then string else deviceMarks
    | string => if closes c then none else string
    | command => if c = '\x07' then none else command

/-- The control characters that are blanks. -/
def isBlankControl (c : Char) : Bool :=
  c == '\t' || c == '\n' || c == '\x0c' || c == '\r'

/-- Whether a character is shown where part of a sequence has been read. -/
def shows (sequence : Sequence) (c : Char) : Bool :=
  match sequence with
  | none => isBlankControl c || (0x20 ≤ c.toNat && c.toNat != 0x7F)
  | escape | marked | control => isBlankControl c
  | _ => false

end Sequence

namespace Terminal

/-- A text without its control sequences, from where part of one has been
    read. `shown` says whether the last character was shown. Then the
    sequence waits, and a character outside ASCII makes it be forgotten. -/
def stripFrom (shown : Bool) (sequence : Sequence) : List Char → List Char
  | [] => []
  | c :: rest =>
    if (if shown then Sequence.none else sequence).shows c then
      c :: stripFrom true (if c.toNat < 0x80 then sequence else .none) rest
    else stripFrom false (sequence.next c) rest

/-- A text without its control sequences. -/
def strip (text : List Char) : List Char :=
  stripFrom false .none text

end Terminal

end Rerun
