/-!
# JSON

Reports as JSON, laid out over several lines with an indentation of two
spaces. Characters are written as they are, except for quotation marks,
backslashes and control characters.

## Main definitions

* `Json`: A JSON value.
* `Json.quote`: A text as a JSON string.
* `Json.render`: A value, laid out.
-/

namespace Rerun

namespace Cli

/-- A JSON value. The fields of an object are in the order they are written. -/
inductive Json where
  | null
  | boolean (value : Bool)
  | number (value : Nat)
  | string (text : List Char)
  | array (items : List Json)
  | object (fields : List (String × Json))

namespace Json

/-- A character as part of a JSON string. -/
def escapeChar (c : Char) : List Char :=
  match c with
  | '\x22' => ['\\', '\x22']
  | '\\' => ['\\', '\\']
  | '\x08' => ['\\', 'b']
  | '\t' => ['\\', 't']
  | '\n' => ['\\', 'n']
  | '\x0c' => ['\\', 'f']
  | '\r' => ['\\', 'r']
  | c =>
    let n := c.toNat
    if n < 0x20 then
      ['\\', 'u', '0', '0', Nat.digitChar (n / 16), Nat.digitChar (n % 16)]
    else [c]

/-- A text as a JSON string. -/
def quote (text : List Char) : List Char :=
  '\x22' :: text.flatMap escapeChar ++ ['\x22']

/-- The start of a line at a depth of nesting. -/
def newLine (depth : Nat) : List Char :=
  '\n' :: List.replicate (2 * depth) ' '

mutual

/-- A value, laid out at a depth of nesting. -/
def renderAt (depth : Nat) : Json → List Char
  | null => "null".toList
  | boolean true => "true".toList
  | boolean false => "false".toList
  | number value => (toString value).toList
  | string text => quote text
  | array [] => "[]".toList
  | array (item :: items) =>
    '[' :: newLine (depth + 1) ++ renderAt (depth + 1) item ++ renderItems (depth + 1) items ++
      newLine depth ++ [']']
  | object [] => ['\x7b', '\x7d']
  | object ((name, value) :: fields) =>
    '\x7b' :: newLine (depth + 1) ++ quote name.toList ++ [':', ' '] ++
      renderAt (depth + 1) value ++ renderFields (depth + 1) fields ++ newLine depth ++ ['\x7d']

/-- The items of an array after the first. -/
def renderItems (depth : Nat) : List Json → List Char
  | [] => []
  | item :: items => ',' :: newLine depth ++ renderAt depth item ++ renderItems depth items

/-- The fields of an object after the first. -/
def renderFields (depth : Nat) : List (String × Json) → List Char
  | [] => []
  | (name, value) :: fields =>
    ',' :: newLine depth ++ quote name.toList ++ [':', ' '] ++ renderAt depth value ++
      renderFields depth fields

end

/-- A value, laid out. -/
def render (value : Json) : String :=
  String.ofList (renderAt 0 value)

end Json

end Cli

end Rerun
