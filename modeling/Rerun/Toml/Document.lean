import Rerun.Toml.Scalar
import Rerun.Toml.Tree

/-!
# TOML Documents

A document is a sequence of lines, each of which is empty, assigns a value
to a key, or is the header of the table that the following keys belong to.
Any line may end in a comment.

Values nest, and so do the keys of a table, both less than `depthLimit` deep.
The readers for both take a fuel that the length of the text bounds: every
nesting and every further item consumes at least one character.

## Main definitions

* `Toml.depthLimit`: The depth that is refused.
* `Toml.keyPath?`: A dotted key.
* `Toml.value?`: A value.
* `Toml.statement?`: The assignment or header on a line.
* `Toml.parse?`: The tree of a document.
-/

namespace Rerun

namespace Toml

/-- A character of a key that needs no quotes. -/
def isBareKey (c : Char) : Bool :=
  c.isAlphanum || c == '_' || c == '-'

/-- Reads one part of a key. -/
def simpleKey? : List Char → Option (List Char × List Char)
  | '\x22' :: rest => basic? rest
  | '\x27' :: rest => literalString? rest
  | text =>
    let name := text.takeWhile isBareKey
    if name.isEmpty then none else some (name, text.dropWhile isBareKey)

/-- Reads the parts of a key, which are joined by dots. -/
def keyParts? : Nat → List Char → Option (List (List Char) × List Char)
  | 0, _ => none
  | fuel + 1, text => do
    let (key, rest) ← simpleKey? text
    match skipWs rest with
    | '.' :: more =>
      let (keys, rest) ← keyParts? fuel (skipWs more)
      some (key :: keys, rest)
    | _ => some ([key], rest)

/-- The depth at which nested values, and the parts of a key, are refused. -/
def depthLimit : Nat := 80

/-- Reads a key, of fewer parts than the limit. -/
def keyPath? (fuel : Nat) (text : List Char) : Option (List (List Char) × List Char) := do
  let (path, rest) ← keyParts? fuel text
  if path.length < depthLimit then some (path, rest) else none

/-- Passes over blanks, ends of lines and comments between the items of an
    array. -/
def skipTrivia (inComment : Bool) : List Char → Option (List Char)
  | [] => some []
  | c :: rest =>
    if c = '\n' then skipTrivia false rest
    else if c = '\r' then
      match rest with
      | [] => none
      | d :: rest => if d = '\n' then skipTrivia false rest else none
    else if inComment then if isPrintable c then skipTrivia true rest else none
    else if isWs c then skipTrivia false rest
    else if c = '#' then skipTrivia true rest
    else some (c :: rest)

mutual

/-- Reads a value that stands inside `depth` others. -/
def value? : Nat → Nat → List Char → Option (Toml × List Char)
  | 0, _, _ => none
  | fuel + 1, depth, text =>
    match text with
    | '[' :: rest =>
      if depth + 1 < depthLimit then do
        let (items, rest) ← items? fuel (depth + 1) rest
        some (.array items, rest)
      else none
    | '\x7b' :: rest =>
      if depth + 1 < depthLimit then
        match skipWs rest with
        | '\x7d' :: rest => some (.table .braces [], rest)
        | rest => do
          let (entries, rest) ← pairs? fuel (depth + 1) [] rest
          some (.table .braces entries, rest)
      else none
    | 't' :: 'r' :: 'u' :: 'e' :: rest => some (.boolean true, rest)
    | 'f' :: 'a' :: 'l' :: 's' :: 'e' :: rest => some (.boolean false, rest)
    | _ =>
      match string? text with
      | some (s, rest) => some (.string s, rest)
      | none => (literal? text).map fun (s, rest) => (.literal s, rest)

/-- Reads the items of an array up to its closing bracket. The last one may
    be followed by a comma. -/
def items? : Nat → Nat → List Char → Option (List Toml × List Char)
  | 0, _, _ => none
  | fuel + 1, depth, text => do
    match ← skipTrivia false text with
    | ']' :: rest => some ([], rest)
    | text =>
      let (item, rest) ← value? fuel depth text
      match ← skipTrivia false rest with
      | ',' :: rest =>
        let (items, rest) ← items? fuel depth rest
        some (item :: items, rest)
      | ']' :: rest => some ([item], rest)
      | _ => none

/-- Reads the pairs of a table between braces up to the closing brace. -/
def pairs? : Nat → Nat → Entries → List Char → Option (Entries × List Char)
  | 0, _, _, _ => none
  | fuel + 1, depth, entries, text => do
    let (path, rest) ← keyPath? fuel (skipWs text)
    let rest ← char? '=' (skipWs rest)
    let (value, rest) ← value? fuel depth (skipWs rest)
    let entries ← insert? value path entries
    match skipWs rest with
    | ',' :: rest => pairs? fuel depth entries rest
    | '\x7d' :: rest => some (entries, rest)
    | _ => none

end

/-- Reads what may follow a statement: blanks, a comment, and the end of the
    line or of the text. -/
def lineEnd? (text : List Char) : Option (List Char) :=
  let rest :=
    match skipWs text with
    | '#' :: rest => rest.dropWhile isPrintable
    | rest => rest
  match rest with
  | [] => some []
  | rest => newline? rest

/-- What a line says. -/
inductive Statement where
  /-- A header that introduces a table. -/
  | header (path : List (List Char))
  /-- A header that adds a table to an array. -/
  | item (path : List (List Char))
  /-- A key with its value. -/
  | pair (path : List (List Char)) (value : Toml)
  /-- Nothing. -/
  | blank

/-- Reads what a line says. -/
def statement? (fuel : Nat) (text : List Char) : Option (Statement × List Char) :=
  match text with
  | [] => some (.blank, [])
  | '[' :: '[' :: rest => do
    let (path, rest) ← keyPath? fuel (skipWs rest)
    let rest ← char? ']' (skipWs rest)
    let rest ← char? ']' rest
    some (.item path, rest)
  | '[' :: rest => do
    let (path, rest) ← keyPath? fuel (skipWs rest)
    let rest ← char? ']' (skipWs rest)
    some (.header path, rest)
  | c :: rest =>
    if c = '#' ∨ c = '\n' ∨ c = '\r' then some (.blank, c :: rest)
    else do
      let (path, rest) ← keyPath? fuel (c :: rest)
      let rest ← char? '=' (skipWs rest)
      let (value, rest) ← value? fuel 0 (skipWs rest)
      some (.pair path value, rest)

/-- Applies a statement to the tree built so far. `here` is the header in
    force. -/
def carryOut? (root : Entries) (here : List (List Char)) :
    Statement → Option (Entries × List (List Char))
  | .blank => some (root, here)
  | .header path => (openTable? path root).map fun root => (root, path)
  | .item path => (pushTable? path root).map fun root => (root, path)
  | .pair path value => (modifyAt? (insert? value path) here root).map fun root => (root, here)

/-- Reads the lines of a document. -/
def lines? : Nat → Entries → List (List Char) → List Char → Option Entries
  | 0, _, _, _ => none
  | fuel + 1, root, here, text =>
    match skipWs text with
    | [] => some root
    | text => do
      let (statement, rest) ← statement? fuel text
      let (root, here) ← carryOut? root here statement
      let rest ← lineEnd? rest
      lines? fuel root here rest

/-- The tree of a document, if it is one. A byte order mark may open it. -/
def parse? (text : List Char) : Option Entries :=
  let text :=
    match text with
    | '\uFEFF' :: rest => rest
    | text => text
  lines? (text.length + 1) [] [] text

end Toml

end Rerun
