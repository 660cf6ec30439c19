import Rerun.Host
import Rerun.Pattern

/-!
# Log Filters

Which log records are shown. A filter is written as directives between
commas, each of them a level, a channel, or a channel and a level. A record
is judged by the directive with the longest name that its channel's name
begins with; a level alone is a directive for all channels. What follows a
slash is a pattern that must occur in the message.

A directive that cannot be read is reported and left out, and so is a
pattern. A filter without any directive shows errors only.

## Main definitions

* `LogFilter.Directive`, `LogFilter`: Directives, and a filter made of them.
* `LogFilter.parse`: A filter with the complaints about its text.
* `LogFilter.allows`: Whether a record is shown.
-/

namespace Rerun

namespace Cli

open Text

/-- The importance a record must have to be shown, as a rank. Rank zero shows
    nothing. -/
structure LogFilter.Directive where
  /-- What the channel's name begins with. -/
  name : Option (List Char)
  rank : Nat
deriving DecidableEq, Repr

/-- A log filter. -/
structure LogFilter where
  directives : List LogFilter.Directive
  /-- A pattern that must occur in the message. -/
  pattern : Option Pattern.Meaning
deriving DecidableEq, Repr

namespace LogFilter

/-- The rank that a word denotes. -/
def rank? (word : List Char) : Option Nat :=
  match String.ofList (lower word) with
  | "off" => some 0
  | "error" => some 1
  | "warn" => some 2
  | "info" => some 3
  | "debug" => some 4
  | "trace" => some 5
  | _ => none

/-- The rank that shows everything. -/
def maxRank : Nat := 5

/-- What is said about a part of a filter that cannot be read. -/
def complaint (part : List Char) : String :=
  "warning: invalid logging spec '" ++ String.ofList part ++ "', ignoring it"

/-- Reads one directive. -/
def directive (part : List Char) : Except String Directive :=
  match splitOn '=' part with
  | [word] =>
    match rank? word with
    | some rank => .ok ⟨none, rank⟩
    | none => .ok ⟨some word, maxRank⟩
  | [name, level] =>
    let level := trimBoth level
    if level.isEmpty then .ok ⟨some name, maxRank⟩
    else
      match rank? level with
      | some rank => .ok ⟨some name, rank⟩
      | none => .error (complaint level)
  | _ => .error (complaint part)

/-- Adds a directive. It takes the place of an earlier one with the same
    name. -/
def add (directives : List Directive) (new : Directive) : List Directive :=
  if directives.any fun old => old.name == new.name then
    directives.map fun old => if old.name = new.name then new else old
  else directives ++ [new]

/-- Reads the directives of a filter, with the complaints about them. -/
def readAll (directives : List Directive) : List (List Char) → List Directive × List String
  | [] => (directives, [])
  | part :: rest =>
    let part := trimBoth part
    if part.isEmpty then readAll directives rest
    else
      match directive part with
      | .ok new => readAll (add directives new) rest
      | .error text =>
        let (directives, texts) := readAll directives rest
        (directives, text :: texts)

/-- A pattern that can be used, or the complaint about one that cannot. -/
def readPattern (text : List Char) : Option Pattern.Meaning × List String :=
  match Pattern.compile text with
  | .ok pattern => (some pattern, [])
  | .error refusal =>
    (none, ["warning: invalid regex filter - " ++ refusal.report text ++ ", ignoring it"])

/-- A filter, with the complaints about its text. -/
def parse (text : List Char) : LogFilter × List String :=
  let withDefault (directives : List Directive) : List Directive :=
    if directives.isEmpty then [⟨none, Level.error.rank⟩] else directives
  match splitOn '/' text with
  | [directives] =>
    let (directives, texts) := readAll [] (splitOn ',' directives)
    (⟨withDefault directives, none⟩, texts)
  | [directives, pattern] =>
    let (directives, texts) := readAll [] (splitOn ',' directives)
    let (pattern, more) := readPattern pattern
    (⟨withDefault directives, pattern⟩, texts ++ more)
  | _ =>
    (⟨withDefault [], none⟩,
      ["warning: invalid logging spec '" ++ String.ofList text ++
        "' (too many '/'s), ignoring it"])

/-- Whether a directive speaks about a channel. -/
def Directive.covers (directive : Directive) (channel : List Char) : Bool :=
  directive.name.all fun name => startsWith name channel

/-- The length of a directive's name. -/
def Directive.weight (directive : Directive) : Nat :=
  (directive.name.map Utf8.size).getD 0

/-- Of two directives, the one with the longer name; of equally long ones, the
    one that was given later. -/
def heavier (best : Option Directive) (new : Directive) : Option Directive :=
  match best with
  | none => some new
  | some old => if old.weight ≤ new.weight then some new else some old

/-- Whether a record is shown. -/
def allows (filter : LogFilter) (record : Record) : Bool :=
  let channel := record.channel.name.toList
  let judge := (filter.directives.filter fun d => d.covers channel).foldl heavier none
  judge.any (fun d => record.level.rank ≤ d.rank) &&
    filter.pattern.all fun pattern => pattern.occursIn record.message.toList

end LogFilter

end Cli

end Rerun
