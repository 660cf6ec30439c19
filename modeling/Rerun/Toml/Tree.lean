/-!
# TOML Trees

The values of a TOML document. A table remembers how it came about, because
that decides what may still be added to it: a table written between braces
is complete, one that a header introduced cannot be introduced again, and
one that dotted keys built up can only be extended by further dotted keys. A
table that is only implied by a header further down may be introduced or
extended by dotted keys.

Numbers, dates and times are kept as they were written. No setting takes
one, so what they denote does not matter here.

## Main definitions

* `Toml`: A value.
* `Toml.Style.isOpen`: Whether dotted keys may add to a table.
* `Toml.insert?`: Adds a value under a dotted key.
* `Toml.openTable?`: Introduces the table that a header names.
* `Toml.pushTable?`: Adds a table to the array that a header names.
* `Toml.modifyAt?`: Changes the table that a header has led to.
-/

namespace Rerun

/-- How a table came about. -/
inductive Toml.Style where
  /-- Written between braces. -/
  | braces
  /-- Introduced by a header. -/
  | header
  /-- Implied by a header further down. -/
  | implied
  /-- Built up by dotted keys. -/
  | dotted
deriving DecidableEq, Repr

/-- A value of a TOML document. -/
inductive Toml where
  | string (text : List Char)
  | boolean (value : Bool)
  /-- A number, date or time, as written. -/
  | literal (text : List Char)
  | array (items : List Toml)
  | table (style : Toml.Style) (entries : List (List Char × Toml))
  /-- An array of tables, each introduced by a header. -/
  | tables (items : List (List (List Char × Toml)))
deriving Repr

namespace Toml

/-- The entries of a table, in the order they were added. -/
abbrev Entries := List (List Char × Toml)

/-- Replaces the value under a key that is already there. -/
def assign (key : List Char) (value : Toml) (entries : Entries) : Entries :=
  entries.map fun entry => if entry.1 = key then (key, value) else entry

/-- Whether dotted keys may add to a table. -/
def Style.isOpen : Style → Bool
  | braces | header => false
  | implied | dotted => true

/-- Adds a value under a dotted key. No key can be given twice, and dotted
    keys extend no table that a header or braces have introduced. -/
def insert? (value : Toml) : List (List Char) → Entries → Option Entries
  | [], _ => none
  | [key], entries =>
    match entries.lookup key with
    | some _ => none
    | none => some (entries ++ [(key, value)])
  | key :: path, entries =>
    match entries.lookup key with
    | none => (insert? value path []).map fun sub => entries ++ [(key, .table .dotted sub)]
    | some (.table style sub) =>
      if style.isOpen then
        (insert? value path sub).map fun sub => assign key (.table style sub) entries
      else none
    | some _ => none

/-- Changes the table that a sequence of keys leads to. A key of an array of
    tables leads to the last of them. -/
def modifyAt? (change : Entries → Option Entries) : List (List Char) → Entries → Option Entries
  | [], entries => change entries
  | key :: path, entries =>
    match entries.lookup key with
    | some (.table .braces _) => none
    | some (.table style sub) =>
      (modifyAt? change path sub).map fun sub => assign key (.table style sub) entries
    | some (.tables items) =>
      match items.getLast? with
      | none => none
      | some last =>
        (modifyAt? change path last).map fun sub =>
          assign key (.tables (items.dropLast ++ [sub])) entries
    | some _ => none
    | none =>
      (modifyAt? change path []).map fun sub => entries ++ [(key, .table .implied sub)]

/-- Introduces the table under a key. It may have been implied before, but
    not introduced. -/
def introduce? (key : List Char) (entries : Entries) : Option Entries :=
  match entries.lookup key with
  | none => some (entries ++ [(key, .table .header [])])
  | some (.table .implied sub) => some (assign key (.table .header sub) entries)
  | some _ => none

/-- Adds a table to the array of tables under a key. -/
def push? (key : List Char) (entries : Entries) : Option Entries :=
  match entries.lookup key with
  | none => some (entries ++ [(key, .tables [[]])])
  | some (.tables items) => some (assign key (.tables (items ++ [[]])) entries)
  | some _ => none

/-- Introduces the table that a header names. -/
def openTable? (path : List (List Char)) (root : Entries) : Option Entries := do
  let key ← path.getLast?
  modifyAt? (introduce? key) path.dropLast root

/-- Adds a table to the array that a header names. -/
def pushTable? (path : List (List Char)) (root : Entries) : Option Entries := do
  let key ← path.getLast?
  modifyAt? (push? key) path.dropLast root

end Toml

end Rerun
