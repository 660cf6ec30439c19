import Rerun.Pattern.Chars

/-!
# What Patterns Mean

The meaning of a pattern is built from sets of characters and conditions on
positions, by sequence, choice and repetition. Flags are worked into it, and
what a pattern cannot have is refused here: classes and cases of characters
outside ASCII are not known, and without the Unicode flag a pattern must not
match part of a character.

## Main definitions

* `Pattern.Look`: A condition on a position.
* `Pattern.Meaning`: What a pattern matches.
* `Pattern.Settings`: The flags in force.
* `Pattern.Expr.meaning`: The meaning of a part of a pattern.
-/

namespace Rerun

namespace Pattern

/-- The conditions that speak about words. -/
inductive WordLook where
  | boundary
  | noBoundary
  | start
  | stop
  | startHalf
  | stopHalf
deriving DecidableEq, Repr

/-- A condition on a position of a text. -/
inductive Look where
  | textStart
  | textEnd
  /-- The start of a line, where carriage returns may end lines too. -/
  | lineStart (crlf : Bool)
  | lineEnd (crlf : Bool)
  /-- A condition on words, of ASCII characters or of any. -/
  | word (kind : WordLook) (unicode : Bool)
deriving DecidableEq, Repr

/-- What a pattern matches. -/
inductive Meaning where
  | empty
  /-- One character of a set in its normal form. -/
  | chars (set : Ranges)
  | look (look : Look)
  | sequence (first second : Meaning)
  | choice (first second : Meaning)
  | repeated (body : Meaning) (least : Nat) (most : Option Nat)
  /-- A part that is remembered. -/
  | capture (body : Meaning)
deriving DecidableEq, Repr

/-- The flags in force. -/
structure Settings where
  caseless : Bool := false
  multiLine : Bool := false
  dotAll : Bool := false
  unicode : Bool := true
  crlf : Bool := false
deriving DecidableEq, Repr

namespace Settings

/-- The settings after a flag was set. -/
def change (settings : Settings) : Flag × Bool → Settings
  | (.caseless, value) => { settings with caseless := value }
  | (.multiLine, value) => { settings with multiLine := value }
  | (.dotAll, value) => { settings with dotAll := value }
  | (.unicode, value) => { settings with unicode := value }
  | (.crlf, value) => { settings with crlf := value }
  | (.swapGreed, _) | (.verbose, _) => settings

/-- The largest number that a set without restriction holds: a code point, or
    a byte if sets are not of characters. -/
def largest (settings : Settings) : Nat :=
  if settings.unicode then 0x10FFFF else 0xFF

end Settings

/-- Refuses a part of a pattern. -/
def wrong {α : Type} (fault : Fault) (place : Stretch) : Except Refusal α :=
  .error (.wrong fault place)

/-- A set between brackets while it is built. -/
structure Draft where
  set : Ranges := []
  /-- Whether it has characters of which the other case was not added. -/
  unfolded : Bool := false
deriving DecidableEq, Repr

namespace Draft

/-- Two sets as one. -/
def union (a b : Draft) : Draft :=
  ⟨a.set ++ b.set, a.unfolded || b.unfolded⟩

/-- A set with the other case of its letters, if the case does not matter.
    For characters outside ASCII that is not known, and none of a set's
    characters is exempt. -/
def fold (settings : Settings) (place : Stretch) (draft : Draft) : Except Refusal Draft :=
  if !settings.caseless then .ok draft
  else if !settings.unicode then .ok ⟨Chars.ignoreCase draft.set, false⟩
  else if draft.unfolded then wrong .caseUnavailable place
  else .ok draft

/-- A set in its final form. A set of bytes must not hold part of a
    character. -/
def finish (settings : Settings) (place : Stretch) (negated : Bool) (draft : Draft) :
    Except Refusal Draft := do
  let draft ← draft.fold settings place
  let set :=
    if negated then Chars.complement settings.largest draft.set else Chars.normal draft.set
  if !settings.unicode && set.any (fun range => 0x7F < range.2) then wrong .notUtf8 place
  else return { draft with set }

end Draft

/-- The number of a character in a set. Without the Unicode flag it must be a
    byte that is a character of its own. -/
def Literal.number (settings : Settings) (literal : Literal) : Except Refusal Nat :=
  let n := literal.char.toNat
  if settings.unicode || n ≤ 0x7F then .ok n
  else if literal.asByte then wrong .notUtf8 literal.place
  else wrong .unicodeRefused literal.place

/-- The set of a class that is written with a letter. -/
def LetterClass.draft (settings : Settings) (place : Stretch) (name : LetterClass)
    (negated : Bool) : Except Refusal Draft :=
  if settings.unicode then wrong .classUnavailable place
  else if negated then wrong .notUtf8 place
  else .ok ⟨name.ranges, false⟩

/-- The name of a property without the marks that do not count. -/
def normalName (text : List Char) : List Char :=
  let name :=
    match text with
    | a :: b :: rest => if a.toLower = 'i' ∧ b.toLower = 's' then rest else text
    | _ => text
  (name.filter fun c => c.toNat < 0x80 && c != ' ' && c != '_' && c != '-').map Char.toLower

/-- Refuses a property. None is known; three names could only be those of
    values. -/
def refuseProperty {α : Type} (settings : Settings) (place : Stretch) (text : List Char) :
    Except Refusal α :=
  if !settings.unicode then wrong .unicodeRefused place
  else if text.any (fun c => c == ':' || c == '=') then wrong .propertyUnknown place
  else if ["cf", "sc", "lc"].contains (String.ofList (normalName text)) then
    wrong .valueUnknown place
  else wrong .propertyUnknown place

namespace ClassSet

mutual

/-- The set that stands between brackets. -/
def draft (settings : Settings) : ClassSet → Except Refusal Draft
  | empty _ => .ok {}
  | literal l => do
    let n ← l.number settings
    return ⟨[(n, n)], true⟩
  | range _ first last => do
    let first ← first.number settings
    let last ← last.number settings
    return ⟨[(first, last)], true⟩
  | ascii place name negated => Draft.finish settings place negated ⟨name.ranges, true⟩
  | letter place name negated => name.draft settings place negated
  | property place text => refuseProperty settings place text
  | bracket place negated set => do
    let inner ← draft settings set
    inner.finish settings place negated
  | union _ items => drafts settings items
  | combined _ operation left right => do
    let a ← draft settings left
    let b ← draft settings right
    let b ← b.fold settings right.place
    let a ← a.fold settings left.place
    return ⟨Chars.combine settings.largest operation a.set b.set, a.unfolded || b.unfolded⟩

/-- The set of all that is in some sets. -/
def drafts (settings : Settings) : List ClassSet → Except Refusal Draft
  | [] => .ok {}
  | set :: rest => do
    let a ← draft settings set
    let b ← drafts settings rest
    return a.union b

end

end ClassSet

namespace Meaning

/-- Whether a pattern can match nothing but the empty text. -/
def isZeroWidth : Meaning → Bool
  | empty | look _ => true
  | chars _ => false
  | sequence a b | choice a b => a.isZeroWidth && b.isZeroWidth
  | repeated body _ _ | capture body => body.isZeroWidth

/-- A repetition. What matches only the empty text need not be repeated, and
    no round at all is the empty pattern. -/
def rounds (body : Meaning) (least : Nat) (most : Option Nat) : Meaning :=
  let least := if body.isZeroWidth then min least 1 else least
  let most := if body.isZeroWidth then some ((most.map (min 1)).getD 1) else most
  if most = some 0 then empty
  else if least = 1 ∧ most = some 1 then body
  else repeated body least most

/-- A sequence of two patterns, without the empty ones. -/
def followedBy (first second : Meaning) : Meaning :=
  if first = empty then second else if second = empty then first else sequence first second

/-- A choice between sets of characters is one set. -/
def oneOf (first second : Meaning) : Meaning :=
  match first, second with
  | chars a, chars b => chars (Chars.normal (a ++ b))
  | _, _ => choice first second

end Meaning

/-- The meaning of a single character. -/
def Literal.meaning (settings : Settings) (literal : Literal) : Except Refusal Meaning :=
  let n := literal.char.toNat
  if !settings.unicode && literal.asByte && 0x7F < n then wrong .notUtf8 literal.place
  else if !settings.caseless then .ok (.chars [(n, n)])
  else if settings.unicode then wrong .caseUnavailable literal.place
  else .ok (.chars (Chars.normal (Chars.ignoreCase [(n, n)])))

/-- The meaning of a condition. -/
def Assertion.look (settings : Settings) : Assertion → Look
  | lineStart => if settings.multiLine then .lineStart settings.crlf else .textStart
  | lineEnd => if settings.multiLine then .lineEnd settings.crlf else .textEnd
  | textStart => .textStart
  | textEnd => .textEnd
  | boundary => .word .boundary settings.unicode
  | noBoundary => .word .noBoundary settings.unicode
  | wordStart => .word .start settings.unicode
  | wordEnd => .word .stop settings.unicode
  | wordStartHalf => .word .startHalf settings.unicode
  | wordEndHalf => .word .stopHalf settings.unicode

/-- The meaning of the sign for any character, which leaves out the ends of
    lines unless a flag says otherwise. -/
def anyChar (settings : Settings) (place : Stretch) : Except Refusal Meaning :=
  if !settings.unicode then wrong .notUtf8 place
  else
    let left : Ranges :=
      if settings.dotAll then []
      else if settings.crlf then [(0x0A, 0x0A), (0x0D, 0x0D)]
      else [(0x0A, 0x0A)]
    .ok (.chars (Chars.complement settings.largest left))

namespace Expr

mutual

/-- The meaning of a part of a pattern, and the settings after it. -/
def meaning (settings : Settings) : Expr → Except Refusal (Meaning × Settings)
  | empty _ => .ok (.empty, settings)
  | flags _ changes => .ok (.empty, changes.foldl Settings.change settings)
  | literal l => do return (← l.meaning settings, settings)
  | any place => do return (← anyChar settings place, settings)
  | assertion _ kind => .ok (.look (kind.look settings), settings)
  | letter place name negated => do
    let draft ← name.draft settings place negated
    return (.chars draft.set, settings)
  | property place text => refuseProperty settings place text
  | bracket place negated set => do
    let draft ← set.draft settings
    let draft ← draft.finish settings place negated
    return (.chars draft.set, settings)
  | repeated _ body least most => do
    let (body, settings) ← meaning settings body
    return (body.rounds least most, settings)
  | group _ captures changes body => do
    let (body, _) ← meaning (changes.foldl Settings.change settings) body
    return (if captures then .capture body else body, settings)
  | sequence _ items => sequenceMeaning settings items
  | choice _ items => choiceMeaning settings items

/-- The meaning of parts in a row. -/
def sequenceMeaning (settings : Settings) : List Expr → Except Refusal (Meaning × Settings)
  | [] => .ok (.empty, settings)
  | item :: rest => do
    let (first, settings) ← meaning settings item
    let (second, settings) ← sequenceMeaning settings rest
    return (first.followedBy second, settings)

/-- The meaning of a choice, of which the settings go on from one sequence to
    the next. -/
def choiceMeaning (settings : Settings) : List Expr → Except Refusal (Meaning × Settings)
  | [] => .ok (.chars [], settings)
  | [item] => meaning settings item
  | item :: rest => do
    let (first, settings) ← meaning settings item
    let (second, settings) ← choiceMeaning settings rest
    return (.oneOf first second, settings)

end

end Expr

end Pattern

end Rerun
