import Rerun.Text.Emoji
import Rerun.Text.Width

/-!
# The Width of a Text

How many columns a text takes on a terminal. That is the sum of the widths
of its characters, except where several characters are drawn as one: emoji
that are joined, coloured or turned into text, and the ligatures of some
scripts.

Whether a character belongs to what follows it is decided by what follows, so
a text is measured from its end. `Follow` is all that has to be known about
the rest of the text, and `step` says what one more character in front of it
adds and what is then to be known. A character that makes its neighbour
redundant may add nothing, or take a column away.

## Main definitions

* `Tail`, `Follow`: What follows a character.
* `Follow.ofChar`: A character with nothing of interest after it.
* `Follow.join`: A character before a tail.
* `Follow.step`: A character before the rest of a text.
* `Columns.ofText`: The width of a text.
-/

namespace Rerun

/-- The beginning of the rest of a text, as far as a character before it may
    become part of it. A joiner is U+200D. -/
inductive Tail where
  /-- Nothing of interest. -/
  | plain
  | lineFeed
  /-- A skin tone. -/
  | modifier
  /-- One regional indicator. -/
  | indicator
  /-- At least two regional indicators. -/
  | indicators
  /-- A picture, with all that belongs to it. -/
  | picture
  /-- A joiner and a picture. -/
  | joined
  /-- The enclosing keycap, a joiner and a picture. -/
  | joinedKeycap
  /-- A regional indicator, a joiner and a picture. -/
  | joinedIndicator
  /-- An even number of regional indicators, a joiner and a picture. -/
  | joinedEven
  /-- An odd number of them, at least three. -/
  | joinedOdd
  /-- Tags that end in the closing tag, a joiner and a picture. The numbers
      count the letters and the digits before them. -/
  | joinedTags (letters digits : Nat)
  /-- A Kirat Rai vowel that may merge with the one before it. -/
  | vowelE
  /-- The same, for the next longer vowel. -/
  | vowelAI
  /-- An Arabic alef. -/
  | alef
  /-- A Hebrew lamed, after a joiner or not. -/
  | lamed (afterJoiner : Bool)
  /-- A Buginese ya, after a joiner or not. -/
  | ya (afterJoiner : Bool)
  /-- The Buginese vowel sign i, a joiner and ya. -/
  | signYa
  /-- A Tifinagh consonant, after a joiner or not. -/
  | consonant (afterJoiner : Bool)
  /-- The Tifinagh consonant joiner and a consonant. -/
  | linkedConsonant
  /-- A Lisu tone letter that can stand second. -/
  | tone
  /-- An Old Turkic letter i, after a joiner or not. -/
  | orkhon (afterJoiner : Bool)
  /-- A Khmer letter that has a subscript form. -/
  | subscript
deriving DecidableEq, Repr

namespace Tail

/-- Whether a tail can be part of a ligature, which variation selectors do
    not break. -/
def isLigature : Tail → Bool
  | alef | lamed _ | ya _ | signYa | consonant _ | linkedConsonant | tone | orkhon _ | subscript =>
    true
  | _ => false

/-- Whether a tail is a joined picture, which can be joined to a picture form
    before it. -/
def isJoined : Tail → Bool
  | joined | joinedKeycap => true
  | _ => false

/-- A tail with a joiner before it. -/
def withJoiner : Tail → Tail
  | lamed _ => lamed true
  | ya _ => ya true
  | consonant _ => consonant true
  | orkhon _ => orkhon true
  | tail => tail

end Tail

/-- The rest of a text: a tail, and the variation selectors in front of it.
    A selector that comes before a tail which it cannot be part of makes the
    tail be forgotten. -/
structure Follow where
  tail : Tail := .plain
  /-- The selector of the picture form. -/
  picture : Bool := false
  /-- The selector of the text form. -/
  text : Bool := false
  /-- The selector of the wide form of a quotation mark. -/
  wide : Bool := false
deriving DecidableEq, Repr

namespace Columns

/-- U+200D, which joins what stands on its sides. -/
def joiner : Char := '\u200d'

/-- The selector of the picture form. -/
def pictureSelector : Char := '\ufe0f'

/-- The selector of the text form. -/
def textSelector : Char := '\ufe0e'

/-- The selector of the wide form of a quotation mark. -/
def wideSelector : Char := '\ufe01'

/-- The quotation marks that have a wide form. -/
def isQuote (c : Char) : Bool :=
  [0x2018, 0x2019, 0x201C, 0x201D].contains c.toNat

/-- The forms of the Arabic letter alef. -/
def isAlef (c : Char) : Bool :=
  Ranges.has [(0x622, 0x623), (0x625, 0x625), (0x627, 0x627), (0x671, 0x673), (0x675, 0x675),
    (0x773, 0x774), (0x870, 0x882)] c

/-- The forms of the Arabic letter lam. -/
def isLam (c : Char) : Bool :=
  Ranges.has [(0x644, 0x644), (0x6B5, 0x6B8), (0x76A, 0x76A), (0x8A6, 0x8A6), (0x8C7, 0x8C7)] c

/-- The Tifinagh consonants. -/
def isConsonant (c : Char) : Bool :=
  Ranges.has [(0x2D31, 0x2D65), (0x2D6F, 0x2D6F)] c

/-- The Khmer letters that have a subscript form without a width. -/
def hasSubscript (c : Char) : Bool :=
  Ranges.has [(0x1780, 0x1782), (0x1784, 0x1787), (0x1789, 0x178C), (0x178E, 0x1793),
    (0x1795, 0x1798), (0x179B, 0x179D), (0x17A0, 0x17A0), (0x17A2, 0x17A2), (0x17A7, 0x17A7),
    (0x17AB, 0x17AC), (0x17AF, 0x17AF)] c

/-- The marks that are never shown. They do not break a ligature, except in
    Arabic, where `isTransparent` decides. -/
def isHiddenMark (c : Char) : Bool :=
  Ranges.has [(0x34F, 0x34F), (0x17B4, 0x17B5), (0x180B, 0x180D), (0x180F, 0x180F),
    (0xFE00, 0xFE0F), (0xE0100, 0xE01EF)] c

/-- The code points without a width that break an Arabic ligature. -/
def breaking : Ranges :=
  [(0x605, 0x605), (0x890, 0x891), (0x8E2, 0x8E2), (0x9BE, 0x9BE), (0x9D7, 0x9D7), (0xB3E, 0xB3E),
    (0xB57, 0xB57), (0xBBE, 0xBBE), (0xBD7, 0xBD7), (0xCC0, 0xCC0), (0xCC2, 0xCC2), (0xCC7, 0xCC8),
    (0xCCA, 0xCCB), (0xCD5, 0xCD6), (0xD3E, 0xD3E), (0xD4E, 0xD4E), (0xD57, 0xD57), (0xDCF, 0xDCF),
    (0xDDF, 0xDDF), (0x1160, 0x11FF), (0x1715, 0x1715), (0x1734, 0x1734), (0x180E, 0x180E),
    (0x1B35, 0x1B35), (0x1B3B, 0x1B3B), (0x1B3D, 0x1B3D), (0x1B43, 0x1B44), (0x1BAA, 0x1BAA),
    (0x1BF2, 0x1BF3), (0x200C, 0x200D), (0x2065, 0x2069), (0x302E, 0x302F), (0x3164, 0x3164),
    (0xA8FA, 0xA8FA), (0xA953, 0xA953), (0xA9C0, 0xA9C0), (0xD7B0, 0xD7C6), (0xD7CB, 0xD7FB),
    (0xFFA0, 0xFFA0), (0xFFF0, 0xFFF8), (0x111C0, 0x111C0), (0x111C2, 0x111C3), (0x11235, 0x11235),
    (0x1133E, 0x1133E), (0x1134D, 0x1134D), (0x11357, 0x11357), (0x113B8, 0x113B8),
    (0x113C2, 0x113C2), (0x113C5, 0x113C5), (0x113C7, 0x113C9), (0x113CF, 0x113CF),
    (0x113D1, 0x113D1), (0x114B0, 0x114B0), (0x114BD, 0x114BD), (0x115AF, 0x115AF),
    (0x116B6, 0x116B6), (0x11930, 0x11930), (0x1193D, 0x1193D), (0x1193F, 0x1193F),
    (0x11941, 0x11941), (0x11A84, 0x11A89), (0x11D46, 0x11D46), (0x11F02, 0x11F02),
    (0x11F41, 0x11F41), (0x16FF0, 0x16FF1), (0x1D165, 0x1D166), (0x1D16D, 0x1D172),
    (0xE0000, 0xE0000), (0xE0002, 0xE001F), (0xE0080, 0xE00FF), (0xE01F0, 0xE0FFF)]

/-- The characters that may stand between the letters of an Arabic
    ligature. -/
def isTransparent (c : Char) : Bool :=
  Width.ofChar c == 0 && !breaking.has c

end Columns

namespace Follow

open Columns Text

/-- A tail with no selectors in front of it. -/
def bare (tail : Tail) : Follow :=
  { tail }

/-- The tail that begins with a character of which nothing is known to come
    after it. -/
def tailOf (c : Char) : Tail :=
  if Emoji.isModifier c then .modifier
  else if Emoji.isIndicator c then .indicator
  else if Emoji.isPicture c then .picture
  else if isAlef c then .alef
  else if isConsonant c then .consonant false
  else if hasSubscript c then .subscript
  else
    match c.toNat with
    | 0x0A => .lineFeed
    | 0x5DC => .lamed false
    | 0x1A10 => .ya false
    | 0xA4FC | 0xA4FD => .tone
    | 0x10C03 => .orkhon false
    | 0x16D67 => .vowelE
    | 0x16D68 => .vowelAI
    | _ => .plain

/-- A character by itself: its width, and what it is to a character before
    it. -/
def ofChar (c : Char) : Int × Follow :=
  if c = pictureSelector then (0, { picture := true })
  else if c = textSelector then (0, { text := true })
  else if c = wideSelector then (0, { wide := true })
  else (Width.ofChar c, bare (tailOf c))

/-- The rest of a text without the selector of the picture form, which no
    character has taken. -/
def dropPicture (next : Follow) : Follow :=
  if next.tail.isLigature then { next with picture := false } else {}

/-- The rest of a text after the selector of the picture form. -/
def addPicture (next : Follow) : Follow :=
  if next.tail.isLigature || next.tail.isJoined then { next with picture := true }
  else { picture := true }

/-- The rest of a text after the selector of the text form. -/
def addText (next : Follow) : Follow :=
  if next.tail.isLigature then { next with text := true } else { text := true }

/-- The rest of a text after the selector of a wide quotation mark. -/
def addWide (next : Follow) : Follow :=
  if next.tail.isLigature then { next with wide := true } else { wide := true }

/-- A character before the tags that are joined to a picture. Tags name a
    part of a country: its code is two letters or three digits, and up to
    four letters follow. A black flag before them completes the picture. -/
def joinTags (c : Char) (letters digits : Nat) : Option (Int × Follow) :=
  if between 0xE0061 0xE007A c ∧ digits = 0 ∧ letters < 6 then
    some (0, bare (.joinedTags (letters + 1) 0))
  else if between 0xE0030 0xE0039 c ∧ digits = 0 ∧ letters ≤ 4 then
    some (0, bare (.joinedTags letters 1))
  else if between 0xE0030 0xE0039 c ∧ 0 < digits ∧ digits < 3 then
    some (0, bare (.joinedTags letters (digits + 1)))
  else if c.toNat = 0x1F3F4 ∧ (digits = 3 ∨ (digits = 0 ∧ 3 ≤ letters)) then
    some (0, bare .picture)
  else none

/-- A character before a joiner and a picture. -/
def joinPicture (c : Char) : Option (Int × Follow) :=
  if c.toNat = 0x20E3 then some (0, bare .joinedKeycap)
  else if Emoji.isIndicator c then some (1, bare .joinedIndicator)
  else if Emoji.isModifier c then some (0, bare .modifier)
  else if c.toNat = 0xE007F then some (0, bare (.joinedTags 0 0))
  else if Emoji.isPicture c then some (0, bare .picture)
  else none

/-- A character that becomes part of a tail, with what it adds. -/
def join? (c : Char) : Tail → Option (Int × Follow)
  | .plain | .lineFeed | .joinedKeycap => none
  | .modifier =>
    if Emoji.takesModifier c then some (0, bare .picture)
    else if c = joiner then some (0, bare .joined)
    else none
  | .indicator => if Emoji.isIndicator c then some (1, bare .indicators) else none
  | .indicators =>
    if Emoji.isIndicator c then some (1, bare .indicators)
    else if c = joiner then some (0, bare .joined)
    else none
  | .picture => if c = joiner then some (0, bare .joined) else none
  | .joined => joinPicture c
  | .joinedIndicator => if Emoji.isIndicator c then some (-1, bare .joinedEven) else none
  | .joinedEven =>
    if Emoji.isIndicator c then some (3, bare .joinedOdd)
    else if c = joiner then some (0, bare .joined)
    else none
  | .joinedOdd =>
    if Emoji.isIndicator c then some (-1, bare .joinedEven)
    else if c = joiner then some (0, bare .joined)
    else none
  | .joinedTags letters digits => joinTags c letters digits
  | .vowelE =>
    match c.toNat with
    | 0x16D63 | 0x16D69 => some (0, {})
    | 0x16D67 => some (0, bare .vowelAI)
    | 0x16D68 => some (1, bare .vowelE)
    | _ => none
  | .vowelAI => if c.toNat = 0x16D63 then some (0, {}) else none
  | .alef =>
    if isLam c then some (0, {})
    else if isTransparent c then some (0, bare .alef)
    else none
  | .lamed afterJoiner => if afterJoiner && c.toNat == 0x5D0 then some (0, {}) else none
  | .ya afterJoiner => if afterJoiner && c.toNat == 0x1A17 then some (0, bare .signYa) else none
  | .signYa => if c.toNat = 0x1A15 then some (0, {}) else none
  | .consonant afterJoiner =>
    if c.toNat = 0x2D7F then some (1, bare .linkedConsonant)
    else if afterJoiner && isConsonant c then some (0, {})
    else none
  | .linkedConsonant => if isConsonant c then some (-1, {}) else none
  | .tone => if between 0xA4F8 0xA4FB c then some (0, {}) else none
  | .orkhon afterJoiner => if afterJoiner && c.toNat == 0x10C32 then some (0, {}) else none
  | .subscript => if c.toNat = 0x17D2 then some (-1, {}) else none

/-- A character before a tail. -/
def join (c : Char) (tail : Tail) : Int × Follow :=
  if tail.isLigature && tail != .alef && c == joiner then (0, bare tail.withJoiner)
  else if tail.isLigature && tail != .alef && isHiddenMark c then (0, bare tail)
  else (join? c tail).getD (ofChar c)

/-- A character beyond U+00A0 before the rest of a text, in which no selector
    of a picture form is waiting. -/
def stepBeyond (c : Char) (next : Follow) : Int × Follow :=
  if c = pictureSelector then (0, next.addPicture)
  else if c = textSelector then (0, next.addText)
  else if next.text && Emoji.hasTextForm c then (1, {})
  else
    let next := { next with text := false }
    if next.wide && isQuote c then (2, {})
    else if c = wideSelector then (0, addWide { next with wide := false })
    else join c next.tail

/-- A character before the rest of a text: what it adds to the width, and
    the rest of the text with it. -/
def step (c : Char) (next : Follow) : Int × Follow :=
  if next.picture && Emoji.hasForms c then
    (if next.tail.isJoined then 0 else 2, bare .picture)
  else
    let next := if next.picture then next.dropPicture else next
    if 0xA0 < c.toNat then stepBeyond c next
    else if c = '\n' then (1, bare .lineFeed)
    else if c = '\r' ∧ next.tail = .lineFeed then (0, {})
    else (1, {})

end Follow

namespace Columns

/-- The width of a text with what its first character is to one before it. -/
def measure : List Char → Int × Follow
  | [] => (0, {})
  | c :: rest =>
    let (width, next) := measure rest
    let (more, first) := Follow.step c next
    (width + more, first)

/-- The number of columns a text takes. -/
def ofText (text : List Char) : Nat :=
  (measure text).1.toNat

end Columns

end Rerun
