import Rerun.Pattern.Meaning

/-!
# The Size of a Pattern

Before a pattern is used, two machines are built for it, one that reads a
text forwards and one that reads it backwards, and a pattern is refused if
one of them takes too many bytes. A machine has a state for every byte of a
text that a part can match, a few for each choice and each repetition, and
repeats the states of a part as often as the part can be repeated.

A set of characters is matched byte by byte. For that its ranges are cut
until each piece is a product of ranges of bytes; reading forwards, the
states from which the same bytes can follow are one.

## Main definitions

* `Chars.byteSequences`: A set as sequences of ranges of bytes.
* `Meaning.size`: The bytes that a machine for a pattern takes.
* `Meaning.usesUnicodeWords`: Whether a pattern speaks about words outside
  ASCII.
-/

namespace Rerun

namespace Pattern

/-- The bytes that a state takes. -/
def stateSize : Nat := 32

/-- The bytes that a step from one of several takes. -/
def stepSize : Nat := 8

/-- The bytes that one way out of a choice takes. -/
def wayOutSize : Nat := 4

namespace Chars

/-- Where to cut a range of which the ends differ in more than their last
    `6 * n` bits, so that what is cut off is complete in these bits. -/
def cutAt? (n low high : Nat) : Option Nat :=
  let block := Nat.pow 2 (6 * n)
  if low / block = high / block then none
  else if low % block ≠ 0 then some (low / block * block + block - 1)
  else if high % block ≠ block - 1 then some (high / block * block - 1)
  else none

/-- Where to cut a range that is not a product of ranges of bytes. -/
def cut? (low high : Nat) : Option Nat :=
  match [0x7F, 0x7FF, 0xFFFF].find? fun last => low ≤ last && last < high with
  | some last => some last
  | none =>
    if high ≤ 0x7F then none
    else ((cutAt? 1 low high).or (cutAt? 2 low high)).or (cutAt? 3 low high)

/-- A range as sequences of ranges of bytes. -/
def cutUp : Nat → Nat → Nat → List Ranges
  | 0, _, _ => []
  | fuel + 1, low, high =>
    match cut? low high with
    | some last => cutUp fuel low last ++ cutUp fuel (last + 1) high
    | none =>
      let bytes (n : Nat) : List Nat := (String.utf8EncodeChar (Char.ofNat n)).map UInt8.toNat
      [(bytes low).zip (bytes high)]

/-- A set as sequences of ranges of bytes. A range is cut a few times only:
    once for each length of a character, and twice for each of its bytes. -/
def byteSequences (set : Ranges) : List Ranges :=
  let surrogates : Ranges := [(0xD800, 0xDFFF)]
  let scalars := combine 0x10FFFF .difference set surrogates
  scalars.flatMap fun range => cutUp 16 range.1 range.2

/-- The first ranges of some sequences, each once. -/
def firsts (sequences : List Ranges) : Ranges :=
  (sequences.filterMap List.head?).eraseDups

/-- What can follow a range at the beginning of some sequences. -/
def after (sequences : List Ranges) (first : Nat × Nat) : List Ranges :=
  sequences.filterMap fun bytes => if bytes.head? = some first then some bytes.tail else none

/-- What can follow the beginnings of some sequences, up to a number of bytes.
    Each stands for a state. -/
def residuals : Nat → List Ranges → List (List Ranges)
  | 0, _ => []
  | fuel + 1, sequences =>
    if (firsts sequences).isEmpty then []
    else sequences :: (firsts sequences).flatMap fun first => residuals fuel (after sequences first)

/-- The beginnings of a sequence, except the empty one. -/
def beginnings (bytes : Ranges) : List Ranges :=
  (List.range bytes.length).map fun n => bytes.take (n + 1)

/-- The size of a set of characters for a machine that reads forwards, or
    backwards. One character takes a state for each byte, and a set in ASCII
    a single state with a step for each range. -/
def size (forwards : Bool) (set : Ranges) : Nat :=
  let sequences := byteSequences set
  match set with
  | [] => stateSize
  | [(low, high)] =>
    if low = high then stateSize * (sequences.flatten).length
    else general sequences
  | _ => general sequences
where
  general (sequences : List Ranges) : Nat :=
    if set.all fun range => range.2 ≤ 0x7F then 2 * stateSize + stepSize * set.length
    else if forwards then
      let states := (residuals 5 sequences).eraseDups
      stateSize * (states.length + 1) +
        stepSize * states.foldl (fun n state => n + (firsts state).length) 0
    else
      let begun := (sequences.flatMap beginnings).eraseDups
      stateSize * (begun.length + 2) + wayOutSize * sequences.length

end Chars

namespace Meaning

/-- Whether a pattern can match the empty text. -/
def canBeEmpty : Meaning → Bool
  | empty | look _ => true
  | chars set => set.isEmpty
  | sequence a b => a.canBeEmpty && b.canBeEmpty
  | choice a b => a.canBeEmpty || b.canBeEmpty
  | repeated body least _ => least == 0 || body.canBeEmpty
  | capture body => body.canBeEmpty

/-- The size of a state with two ways out. -/
def forkSize : Nat := stateSize + 2 * wayOutSize

/-- The size of a repetition of a part that takes some bytes. -/
def roundsSize (body : Nat) (canBeEmpty : Bool) (least : Nat) : Option Nat → Nat
  | none =>
    if least = 0 ∧ canBeEmpty then body + 2 * forkSize + stateSize
    else max least 1 * body + forkSize
  | some most =>
    let start := if least = 0 ∧ 1 < most then stateSize else least * body
    if most = least then start else start + stateSize + (most - least) * (forkSize + body)

/-- The number of patterns that a pattern is a choice between, and the size
    of these. -/
def branchSizes (forwards : Bool) : Meaning → Nat × Nat
  | empty | look _ => (1, stateSize)
  | chars set => (1, Chars.size forwards set)
  | sequence a b => (1, alone (branchSizes forwards a) + alone (branchSizes forwards b))
  | choice a b =>
    let a := branchSizes forwards a
    let b := branchSizes forwards b
    (a.1 + b.1, a.2 + b.2)
  | repeated body least most =>
    (1, roundsSize (alone (branchSizes forwards body)) body.canBeEmpty least most)
  | capture body =>
    (1, alone (branchSizes forwards body) + if forwards then 2 * stateSize else 0)
where
  /-- The size of a pattern that is a choice between several. -/
  alone : Nat × Nat → Nat
    | (1, size) => size
    | (count, size) => size + 2 * stateSize + wayOutSize * count

/-- The bytes that a machine for a pattern takes. Before the pattern it
    passes over any bytes, and after it there is a last state; reading
    forwards, the whole match is remembered. -/
def size (forwards : Bool) (m : Meaning) : Nat :=
  let lead := forkSize + 2 * stateSize + stepSize
  branchSizes.alone (branchSizes forwards (if forwards then capture m else m)) + lead + stateSize

/-- Whether a pattern speaks about words of characters outside ASCII. -/
def usesUnicodeWords : Meaning → Bool
  | look (.word _ unicode) => unicode
  | empty | look _ | chars _ => false
  | sequence a b | choice a b => a.usesUnicodeWords || b.usesUnicodeWords
  | repeated body _ _ | capture body => body.usesUnicodeWords

end Meaning

end Pattern

end Rerun
