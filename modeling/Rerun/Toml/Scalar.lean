import Rerun.Text.Utf8

/-!
# TOML Scalars

The parts of a TOML document that hold no other values: strings in their
four forms, and the numbers, dates and times, which are checked but not
evaluated. Each reader takes the text after the opening quotes and returns
the value with the rest of the text.

## Main definitions

* `Toml.isWs`, `Toml.newline?`: Blanks and ends of lines.
* `Toml.basic?`, `Toml.literalString?`: Strings on one line.
* `Toml.longBasic?`, `Toml.longLiteral?`: Strings over several lines.
* `Toml.isNumber`, `Toml.isMoment`: Numbers, and dates and times.
-/

namespace Rerun

namespace Toml

/-- A blank inside a line: space or tab. -/
def isWs (c : Char) : Bool :=
  c == ' ' || c == '\t'

/-- Passes over blanks inside a line. -/
def skipWs (text : List Char) : List Char :=
  text.dropWhile isWs

/-- Reads the end of a line. A carriage return alone does not end one. -/
def newline? : List Char → Option (List Char)
  | '\n' :: rest => some rest
  | '\r' :: '\n' :: rest => some rest
  | _ => none

/-- A character that may stand in a comment or a string: a tab, or anything
    that is no control character. -/
def isPrintable (c : Char) : Bool :=
  c == '\t' || (0x20 ≤ c.toNat && c.toNat ≠ 0x7F)

/-- The value of a hexadecimal digit. -/
def hexValue? (c : Char) : Option Nat :=
  if c.isDigit then some (c.toNat - '0'.toNat)
  else if 'a' ≤ c ∧ c ≤ 'f' then some (c.toNat - 'a'.toNat + 10)
  else if 'A' ≤ c ∧ c ≤ 'F' then some (c.toNat - 'A'.toNat + 10)
  else none

/-- The character whose code point is written by some hexadecimal digits. -/
def scalar? (digits : List Char) : Option Char := do
  let values ← digits.mapM hexValue?
  Utf8.charOf? (values.foldl (fun n d => n * 16 + d) 0)

/-- The character that a backslash and a letter stand for. -/
def escape? (c : Char) : Option Char :=
  match c with
  | 'b' => some '\x08'
  | 't' => some '\t'
  | 'n' => some '\n'
  | 'f' => some '\x0c'
  | 'r' => some '\r'
  | '\x22' => some '\x22'
  | '\\' => some '\\'
  | _ => none

/-- Puts a character in front of a string that was read. -/
def before (c : Char) (result : Option (List Char × List Char)) :
    Option (List Char × List Char) :=
  result.map fun (text, rest) => (c :: text, rest)

/-- Reads a string up to its closing quotation mark. -/
def basic? : List Char → Option (List Char × List Char)
  | [] => none
  | c :: rest =>
    if c = '\x22' then some ([], rest)
    else if c = '\\' then
      match rest with
      | [] => none
      | e :: rest =>
        if e = 'u' then
          match rest with
          | a :: b :: c :: d :: rest => do before (← scalar? [a, b, c, d]) (basic? rest)
          | _ => none
        else if e = 'U' then
          match rest with
          | a :: b :: c :: d :: e :: f :: g :: h :: rest => do
            before (← scalar? [a, b, c, d, e, f, g, h]) (basic? rest)
          | _ => none
        else do before (← escape? e) (basic? rest)
    else if isPrintable c then before c (basic? rest)
    else none

/-- Reads a string up to its closing apostrophe. -/
def literalString? : List Char → Option (List Char × List Char)
  | [] => none
  | c :: rest =>
    if c = '\x27' then some ([], rest)
    else if isPrintable c then before c (literalString? rest)
    else none

/-- What three quotes in a row leave of a string: up to two more belong to
    the string itself. -/
def closeLong (quote : Char) : List Char → List Char × List Char
  | a :: b :: rest =>
    if a = quote then if b = quote then ([a, b], rest) else ([a], b :: rest)
    else ([], a :: b :: rest)
  | [a] => if a = quote then ([a], []) else ([], [a])
  | [] => ([], [])

/-- Whether a backslash before this text joins lines: nothing but blanks
    stands before the end of the line. -/
def joinsLines (text : List Char) : Bool :=
  (newline? (skipWs text)).isSome

/-- Reads a string up to its three closing quotation marks. `joining` says
    that a backslash has joined lines, so blanks and ends of lines are passed
    over. -/
def longBasic? (joining : Bool) : List Char → Option (List Char × List Char)
  | [] => none
  | c :: rest =>
    if joining && isWs c then longBasic? true rest
    else if c = '\n' then
      if joining then longBasic? true rest else before '\n' (longBasic? false rest)
    else if c = '\r' then
      match rest with
      | [] => none
      | d :: rest =>
        if d = '\n' then
          if joining then longBasic? true rest else before '\n' (longBasic? false rest)
        else none
    else if c = '\x22' then
      match rest with
      | '\x22' :: '\x22' :: tail => some (closeLong '\x22' tail)
      | _ => before c (longBasic? false rest)
    else if c = '\\' then
      if joinsLines rest then longBasic? true rest
      else
        match rest with
        | [] => none
        | e :: rest =>
          if e = 'u' then
            match rest with
            | a :: b :: c :: d :: rest => do before (← scalar? [a, b, c, d]) (longBasic? false rest)
            | _ => none
          else if e = 'U' then
            match rest with
            | a :: b :: c :: d :: e :: f :: g :: h :: rest => do
              before (← scalar? [a, b, c, d, e, f, g, h]) (longBasic? false rest)
            | _ => none
          else do before (← escape? e) (longBasic? false rest)
    else if isPrintable c then before c (longBasic? false rest)
    else none

/-- Reads a string up to its three closing apostrophes. -/
def longLiteral? : List Char → Option (List Char × List Char)
  | [] => none
  | c :: rest =>
    if c = '\n' then before '\n' (longLiteral? rest)
    else if c = '\r' then
      match rest with
      | [] => none
      | d :: rest => if d = '\n' then before '\n' (longLiteral? rest) else none
    else if c = '\x27' then
      match rest with
      | '\x27' :: '\x27' :: tail => some (closeLong '\x27' tail)
      | _ => before c (longLiteral? rest)
    else if isPrintable c then before c (longLiteral? rest)
    else none

/-- Passes over the end of the line that may follow three opening quotes. -/
def skipFirstNewline (text : List Char) : List Char :=
  (newline? text).getD text

/-- Reads a string, whichever of the four forms it has. -/
def string? : List Char → Option (List Char × List Char)
  | '\x22' :: '\x22' :: '\x22' :: rest => longBasic? false (skipFirstNewline rest)
  | '\x27' :: '\x27' :: '\x27' :: rest => longLiteral? (skipFirstNewline rest)
  | '\x22' :: rest => basic? rest
  | '\x27' :: rest => literalString? rest
  | _ => none

/-- Digits of a class, where single underscores may stand between two of
    them. -/
def isDigitRun (isDigit : Char → Bool) : List Char → Bool
  | [] => false
  | [c] => isDigit c
  | c :: d :: rest =>
    isDigit c &&
      if d = '_' then isDigitRun isDigit rest else isDigitRun isDigit (d :: rest)

/-- The number that some digits denote, underscores aside. -/
def digitsValue (base : Nat) (digits : List Char) : Nat :=
  digits.foldl (fun n c => match hexValue? c with
    | some d => n * base + d
    | none => n) 0

/-- A text without its sign. -/
def unsigned : List Char → List Char
  | '+' :: rest => rest
  | '-' :: rest => rest
  | text => text

/-- A decimal integer without its sign: no zero in front of other digits. -/
def isDecimal (digits : List Char) : Bool :=
  isDigitRun Char.isDigit digits && (digits.length == 1 || digits.head? != some '0')

/-- The integers are those of 64 bits. -/
def isInteger (text : List Char) : Bool :=
  let limit := Nat.pow 2 63
  match text with
  | '0' :: 'x' :: digits =>
    isDigitRun (fun c => (hexValue? c).isSome) digits && digitsValue 16 digits < limit
  | '0' :: 'o' :: digits =>
    isDigitRun (fun c => '0' ≤ c && c ≤ '7') digits && digitsValue 8 digits < limit
  | '0' :: 'b' :: digits =>
    isDigitRun (fun c => c == '0' || c == '1') digits && digitsValue 2 digits < limit
  | _ =>
    let digits := unsigned text
    let value := digitsValue 10 digits
    isDecimal digits &&
      (value < limit || (value == limit && text.head? == some '-'))

/-- The exponent of a floating-point number, if one follows. -/
def isExponent : List Char → Bool
  | [] => true
  | c :: rest => (c == 'e' || c == 'E') && isDigitRun Char.isDigit (unsigned rest)

/-- The number that an exponent denotes, zero if there is none. -/
def exponentValue : List Char → Int
  | _ :: '-' :: digits => -(digitsValue 10 digits : Int)
  | _ :: rest => digitsValue 10 (unsigned rest)
  | [] => 0

/-- The least number that is nearer to infinity than to any floating-point
    number of 64 bits. -/
def floatLimit : Nat := Nat.pow 2 1024 - Nat.pow 2 970

/-- Whether some digits, shifted by a power of ten, reach `floatLimit`. The
    power is not computed where its size alone settles the matter. -/
def reachesLimit (digits : List Char) (power : Int) : Bool :=
  let value := digitsValue 10 digits
  match power with
  | .ofNat n => value != 0 && (309 < n || floatLimit ≤ value * Nat.pow 10 n)
  | .negSucc n => n < digits.length && floatLimit * Nat.pow 10 (n + 1) ≤ value

/-- Whether the parts of a floating-point number denote one that is not
    rounded to infinity. -/
def isInRange (whole fraction exponent : List Char) : Bool :=
  let places := fraction.filter Char.isDigit
  !reachesLimit (whole.filter Char.isDigit ++ places) (exponentValue exponent - places.length)

/-- A floating-point number. A positive one may not be too large, whereas a
    negative one is taken for the negative infinity. -/
def isFloat (text : List Char) : Bool :=
  let body := unsigned text
  let digit (c : Char) := c.isDigit || c == '_'
  let whole := body.takeWhile digit
  let negative := text.head? == some '-'
  match body.dropWhile digit with
  | '.' :: rest =>
    let fraction := rest.takeWhile digit
    let exponent := rest.dropWhile digit
    isDecimal whole && isDigitRun Char.isDigit fraction && isExponent exponent &&
      (negative || isInRange whole fraction exponent)
  | [] => false
  | rest => (whole.isEmpty && (rest == "inf".toList || rest == "nan".toList)) ||
      (isDecimal whole && isExponent rest && (negative || isInRange whole [] rest))

/-- A number. -/
def isNumber (text : List Char) : Bool :=
  isInteger text || isFloat text

/-- Reads a number of so many digits. -/
def digits? (count : Nat) (text : List Char) : Option (Nat × List Char) :=
  let run := text.take count
  if run.length == count && run.all Char.isDigit then
    some (digitsValue 10 run, text.drop count)
  else none

/-- The number of days in a month. -/
def daysIn (year month : Nat) : Nat :=
  if month == 2 then
    if year % 4 == 0 && (year % 100 != 0 || year % 400 == 0) then 29 else 28
  else if month == 4 || month == 6 || month == 9 || month == 11 then 30
  else 31

/-- Reads one character. -/
def char? (c : Char) : List Char → Option (List Char)
  | [] => none
  | d :: rest => if c = d then some rest else none

/-- Reads a date. -/
def date? (text : List Char) : Option (List Char) := do
  let (year, rest) ← digits? 4 text
  let (month, rest) ← digits? 2 (← char? '-' rest)
  let (day, rest) ← digits? 2 (← char? '-' rest)
  if 1 ≤ month ∧ month ≤ 12 ∧ 1 ≤ day ∧ day ≤ daysIn year month then some rest else none

/-- Reads a time of day. A leap second is allowed for. -/
def time? (text : List Char) : Option (List Char) := do
  let (hour, rest) ← digits? 2 text
  let (minute, rest) ← digits? 2 (← char? ':' rest)
  let (second, rest) ← digits? 2 (← char? ':' rest)
  if 23 < hour ∨ 59 < minute ∨ 60 < second then none
  else
    match rest with
    | '.' :: rest =>
      if (rest.takeWhile Char.isDigit).isEmpty then none else some (rest.dropWhile Char.isDigit)
    | _ => some rest

/-- Whether a text is nothing, or the distance to universal time. -/
def isOffset : List Char → Bool
  | [] => true
  | ['Z'] => true
  | ['z'] => true
  | c :: rest =>
    (c == '+' || c == '-') &&
      ((do
        let (hour, rest) ← digits? 2 rest
        let (minute, rest) ← digits? 2 (← char? ':' rest)
        some (hour ≤ 23 && minute ≤ 59 && rest.isEmpty)).getD false)

/-- A date, a time of day, or both. -/
def isMoment (text : List Char) : Bool :=
  match date? text with
  | some [] => true
  | some (c :: rest) =>
    (c == 'T' || c == 't' || c == ' ') && ((time? rest).map isOffset).getD false
  | none => ((time? text).map List.isEmpty).getD false

/-- Reads a number, a date or a time. A blank between a date and a time is
    part of it. -/
def literal? (text : List Char) : Option (List Char × List Char) :=
  let part (c : Char) := c.isAlphanum || ['_', '+', '-', '.', ':'].contains c
  let first := text.takeWhile part
  let rest := text.dropWhile part
  let (run, rest) :=
    match rest with
    | ' ' :: d :: tail =>
      if (date? first) == some [] && d.isDigit then
        (first ++ [' '] ++ (d :: tail).takeWhile part, (d :: tail).dropWhile part)
      else (first, rest)
    | _ => (first, rest)
  if isNumber run || isMoment run then some (run, rest) else none

end Toml

end Rerun
