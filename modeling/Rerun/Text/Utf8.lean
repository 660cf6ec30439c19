/-!
# UTF-8

Scripts and configuration files are stored as bytes and read as characters.
Reading is strict: overlong forms, surrogates and code points past U+10FFFF
are refused, and a refusal names the offset of the first sequence that could
not be read, counted in bytes from the start of the file.

Positions reported to a user are byte offsets, while the recognisers work on
characters. `size` is the bridge: the offset of a character is the size of
the text before it.

## Main definitions

* `encode`: The bytes of a text.
* `size`: The number of bytes of a text.
* `decode`: The text of some bytes, or the offset of the first bad sequence.

## Theorems

* `length_encode`: `size` counts the bytes that `encode` writes.
* `size_append`: Sizes add up over concatenation.
-/

namespace Rerun

namespace Utf8

/-- The bytes of a text. -/
def encode (text : List Char) : List UInt8 :=
  text.flatMap String.utf8EncodeChar

/-- The number of bytes of a text. -/
def size : List Char → Nat
  | [] => 0
  | c :: rest => c.utf8Size + size rest

@[simp]
theorem size_nil : size [] = 0 := rfl

@[simp]
theorem size_cons (c : Char) (text : List Char) : size (c :: text) = c.utf8Size + size text := rfl

/-- Sizes add up over concatenation. -/
@[simp]
theorem size_append (a b : List Char) : size (a ++ b) = size a + size b := by
  induction a with
  | nil => simp
  | cons c rest ih => simp [ih, Nat.add_assoc]

/-- `size` counts the bytes that `encode` writes. -/
theorem length_encode (text : List Char) : (encode text).length = size text := by
  induction text with
  | nil => rfl
  | cons c rest ih => simpa [encode] using ih

/-- The character with a given code point, if there is one. -/
def charOf? (n : Nat) : Option Char :=
  if n.isValidChar then some (Char.ofNat n) else none

/-- The six low bits of a continuation byte. -/
def tail? (b : UInt8) : Option Nat :=
  if 0x80 ≤ b.toNat ∧ b.toNat < 0xC0 then some (b.toNat - 0x80) else none

/-- A character written in two bytes. The first bound excludes overlong
    forms of ASCII. -/
def two? (a b : UInt8) : Option Char := do
  let y ← tail? b
  if 0xC2 ≤ a.toNat ∧ a.toNat < 0xE0 then charOf? ((a.toNat - 0xC0) * 64 + y) else none

/-- A character written in three bytes. `charOf?` refuses the surrogates. -/
def three? (a b c : UInt8) : Option Char := do
  let y ← tail? b
  let z ← tail? c
  let n := (a.toNat - 0xE0) * 4096 + y * 64 + z
  if 0xE0 ≤ a.toNat ∧ a.toNat < 0xF0 ∧ 0x800 ≤ n then charOf? n else none

/-- A character written in four bytes. `charOf?` refuses what lies past
    U+10FFFF. -/
def four? (a b c d : UInt8) : Option Char := do
  let x ← tail? b
  let y ← tail? c
  let z ← tail? d
  let n := (a.toNat - 0xF0) * 262144 + x * 4096 + y * 64 + z
  if 0xF0 ≤ a.toNat ∧ a.toNat < 0xF8 ∧ 0x10000 ≤ n then charOf? n else none

/-- Decoding from a given offset. A sequence is read by its shortest form
    that fits, and a first byte admits one length only, so the order in which
    the lengths are tried does not matter. -/
def decodeFrom (offset : Nat) : List UInt8 → Except Nat (List Char)
  | [] => .ok []
  | a :: rest =>
    if a.toNat < 0x80 then
      (Char.ofNat a.toNat :: ·) <$> decodeFrom (offset + 1) rest
    else
      match rest with
      | [] => .error offset
      | b :: rest =>
        match two? a b with
        | some ch => (ch :: ·) <$> decodeFrom (offset + 2) rest
        | none =>
          match rest with
          | [] => .error offset
          | c :: rest =>
            match three? a b c with
            | some ch => (ch :: ·) <$> decodeFrom (offset + 3) rest
            | none =>
              match rest with
              | [] => .error offset
              | d :: rest =>
                match four? a b c d with
                | some ch => (ch :: ·) <$> decodeFrom (offset + 4) rest
                | none => .error offset

/-- The text of some bytes, or the offset of the first sequence that is not
    UTF-8. -/
def decode (bytes : List UInt8) : Except Nat (List Char) :=
  decodeFrom 0 bytes

/-- The text of some bytes, where the reason of a failure does not matter. -/
def decode? (bytes : List UInt8) : Option (List Char) :=
  (decode bytes).toOption

end Utf8

end Rerun
