import Rerun.Text.Utf8

/-!
# Reading Back What Was Written

UTF-8 in both directions. What a text is written as is read as that text, so
a script that was written can be read again (`decode_encode`). And bytes that
can be read are those that the text is written as, so saving the text of a
file saves its bytes (`encode_of_decode`). Nothing is lost either way: no
character has two forms that are read.

A character takes one to four bytes, and for each length there is one lemma
that says which bytes stand for which characters. The two theorems only put
characters in a row.

## Theorems

* `two?_eq_some_iff`, `three?_eq_some_iff`, `four?_eq_some_iff`: Which bytes
  stand for a character.
* `decodeFrom_append`: Reading a character that was written.
* `decode_encode`: A text that was written is read as that text.
* `encode_of_decode`: Bytes that were read are those that the text is written
  as.
-/

namespace Rerun

namespace Utf8

theorem encode_cons (ch : Char) (rest : List Char) :
    encode (ch :: rest) = String.utf8EncodeChar ch ++ encode rest :=
  rfl

theorem toNat_charOfNat {n : Nat} (h : n.isValidChar) : (Char.ofNat n).toNat = n := by
  rw [Char.ofNat, dif_pos h]
  rfl

theorem charOf?_eq_some_iff (n : Nat) (c : Char) : charOf? n = some c ↔ c.toNat = n := by
  unfold charOf?
  constructor
  · intro h
    split at h
    · rename_i hvalid
      cases h
      exact toNat_charOfNat hvalid
    · cases h
  · rintro rfl
    have hvalid : c.toNat.isValidChar := c.valid
    rw [if_pos hvalid, Char.ofNat_toNat]

theorem tail?_eq_some_iff (b : UInt8) (n : Nat) :
    tail? b = some n ↔ b.toNat = 0x80 + n ∧ n < 64 := by
  unfold tail?
  split
  · rw [Option.some.injEq]
    omega
  · constructor
    · intro h
      cases h
    · rintro ⟨hb, hn⟩
      omega

/-- The characters of two bytes. -/
theorem two?_eq_some_iff (a b : UInt8) (ch : Char) :
    two? a b = some ch ↔ 0x80 ≤ ch.toNat ∧ ch.toNat < 0x800 ∧
      a.toNat = 0xC0 + ch.toNat / 64 ∧ b.toNat = 0x80 + ch.toNat % 64 := by
  simp only [two?, Option.bind_eq_bind, Option.bind_eq_some_iff, tail?_eq_some_iff,
    Option.ite_none_right_eq_some, charOf?_eq_some_iff]
  constructor
  · rintro ⟨y, ⟨hb, hy⟩, ha, hch⟩
    omega
  · rintro ⟨hlow, hhigh, ha, hb⟩
    exact ⟨ch.toNat % 64, by omega, by omega, by omega⟩

/-- The characters of three bytes. -/
theorem three?_eq_some_iff (a b c : UInt8) (ch : Char) :
    three? a b c = some ch ↔ 0x800 ≤ ch.toNat ∧ ch.toNat < 0x10000 ∧
      a.toNat = 0xE0 + ch.toNat / 4096 ∧ b.toNat = 0x80 + ch.toNat / 64 % 64 ∧
      c.toNat = 0x80 + ch.toNat % 64 := by
  simp only [three?, Option.bind_eq_bind, Option.bind_eq_some_iff, tail?_eq_some_iff,
    Option.ite_none_right_eq_some, charOf?_eq_some_iff]
  constructor
  · rintro ⟨y, ⟨hb, hy⟩, z, ⟨hc, hz⟩, ha, hch⟩
    omega
  · rintro ⟨hlow, hhigh, ha, hb, hc⟩
    exact ⟨ch.toNat / 64 % 64, by omega, ch.toNat % 64, by omega, by omega, by omega⟩

/-- No character has a code point past U+10FFFF. -/
theorem toNat_lt (ch : Char) : ch.toNat < 0x110000 := by
  rcases ch.valid with h | ⟨-, h⟩
  · exact Nat.lt_trans h (by decide)
  · exact h

/-- The characters of four bytes. -/
theorem four?_eq_some_iff (a b c d : UInt8) (ch : Char) :
    four? a b c d = some ch ↔ 0x10000 ≤ ch.toNat ∧
      a.toNat = 0xF0 + ch.toNat / 262144 ∧ b.toNat = 0x80 + ch.toNat / 4096 % 64 ∧
      c.toNat = 0x80 + ch.toNat / 64 % 64 ∧ d.toNat = 0x80 + ch.toNat % 64 := by
  have hmax := toNat_lt ch
  simp only [four?, Option.bind_eq_bind, Option.bind_eq_some_iff, tail?_eq_some_iff,
    Option.ite_none_right_eq_some, charOf?_eq_some_iff]
  constructor
  · rintro ⟨x, ⟨hb, hx⟩, y, ⟨hc, hy⟩, z, ⟨hd, hz⟩, ha, hch⟩
    omega
  · rintro ⟨hlow, ha, hb, hc, hd⟩
    exact ⟨ch.toNat / 4096 % 64, by omega, ch.toNat / 64 % 64, by omega, ch.toNat % 64, by omega,
      by omega, by omega⟩

theorem two?_eq_none {a : UInt8} (h : 0xE0 ≤ a.toNat) (b : UInt8) : two? a b = none := by
  rw [Option.eq_none_iff_forall_ne_some]
  intro ch hch
  have hbytes := (two?_eq_some_iff a b ch).mp hch
  omega

theorem three?_eq_none {a : UInt8} (h : 0xF0 ≤ a.toNat) (b c : UInt8) : three? a b c = none := by
  rw [Option.eq_none_iff_forall_ne_some]
  intro ch hch
  have hbytes := (three?_eq_some_iff a b c ch).mp hch
  omega

/-- A byte is known by its number. -/
theorem ofNat_eq_of_toNat {n : Nat} {b : UInt8} (h : b.toNat = n) : UInt8.ofNat n = b := by
  rw [← h, UInt8.ofNat_toNat]

theorem encodeChar_of_ascii {a : UInt8} {ch : Char} (hlow : a.toNat < 0x80)
    (h : ch.toNat = a.toNat) : String.utf8EncodeChar ch = [a] := by
  unfold String.utf8EncodeChar
  simp only [Char.toNat_val, h]
  rw [if_pos (by omega), UInt8.ofNat_toNat]

theorem encodeChar_of_two? {a b : UInt8} {ch : Char} (h : two? a b = some ch) :
    String.utf8EncodeChar ch = [a, b] := by
  rcases (two?_eq_some_iff a b ch).mp h with ⟨hlow, hhigh, ha, hb⟩
  unfold String.utf8EncodeChar
  simp only [Char.toNat_val]
  rw [if_neg (by omega), if_pos (by omega), ofNat_eq_of_toNat (b := a) (by omega),
    ofNat_eq_of_toNat (b := b) (by omega)]

theorem encodeChar_of_three? {a b c : UInt8} {ch : Char} (h : three? a b c = some ch) :
    String.utf8EncodeChar ch = [a, b, c] := by
  rcases (three?_eq_some_iff a b c ch).mp h with ⟨hlow, hhigh, ha, hb, hc⟩
  unfold String.utf8EncodeChar
  simp only [Char.toNat_val]
  rw [if_neg (by omega), if_neg (by omega), if_pos (by omega),
    ofNat_eq_of_toNat (b := a) (by omega), ofNat_eq_of_toNat (b := b) (by omega),
    ofNat_eq_of_toNat (b := c) (by omega)]

theorem encodeChar_of_four? {a b c d : UInt8} {ch : Char} (h : four? a b c d = some ch) :
    String.utf8EncodeChar ch = [a, b, c, d] := by
  rcases (four?_eq_some_iff a b c d ch).mp h with ⟨hlow, ha, hb, hc, hd⟩
  have hmax := toNat_lt ch
  unfold String.utf8EncodeChar
  simp only [Char.toNat_val]
  rw [if_neg (by omega), if_neg (by omega), if_neg (by omega),
    ofNat_eq_of_toNat (b := a) (by omega), ofNat_eq_of_toNat (b := b) (by omega),
    ofNat_eq_of_toNat (b := c) (by omega), ofNat_eq_of_toNat (b := d) (by omega)]

/-- The number of a byte that is made from a small number. -/
theorem toNat_ofNat {n : Nat} (h : n < 0x100) : (UInt8.ofNat n).toNat = n := by
  rw [UInt8.toNat_ofNat']
  exact Nat.mod_eq_of_lt h

/-- Every character has bytes that stand for it. -/
theorem exists_bytes (ch : Char) :
    (∃ a : UInt8, a.toNat < 0x80 ∧ ch.toNat = a.toNat) ∨
    (∃ a b, 0xC0 ≤ a.toNat ∧ two? a b = some ch) ∨
    (∃ a b c, 0xE0 ≤ a.toNat ∧ three? a b c = some ch) ∨
    (∃ a b c d, 0xF0 ≤ a.toNat ∧ four? a b c d = some ch) := by
  have hmax := toNat_lt ch
  by_cases h1 : ch.toNat < 0x80
  · refine Or.inl ⟨UInt8.ofNat ch.toNat, ?_⟩
    rw [toNat_ofNat (by omega)]
    exact ⟨h1, rfl⟩
  by_cases h2 : ch.toNat < 0x800
  · refine Or.inr (Or.inl ⟨UInt8.ofNat (0xC0 + ch.toNat / 64), UInt8.ofNat (0x80 + ch.toNat % 64),
      ?_⟩)
    rw [two?_eq_some_iff, toNat_ofNat (by omega), toNat_ofNat (by omega)]
    omega
  by_cases h3 : ch.toNat < 0x10000
  · refine Or.inr (Or.inr (Or.inl ⟨UInt8.ofNat (0xE0 + ch.toNat / 4096),
      UInt8.ofNat (0x80 + ch.toNat / 64 % 64), UInt8.ofNat (0x80 + ch.toNat % 64), ?_⟩))
    rw [three?_eq_some_iff, toNat_ofNat (by omega), toNat_ofNat (by omega),
      toNat_ofNat (by omega)]
    omega
  · refine Or.inr (Or.inr (Or.inr ⟨UInt8.ofNat (0xF0 + ch.toNat / 262144),
      UInt8.ofNat (0x80 + ch.toNat / 4096 % 64), UInt8.ofNat (0x80 + ch.toNat / 64 % 64),
      UInt8.ofNat (0x80 + ch.toNat % 64), ?_⟩))
    rw [four?_eq_some_iff, toNat_ofNat (by omega), toNat_ofNat (by omega),
      toNat_ofNat (by omega), toNat_ofNat (by omega)]
    omega

/-- A character that was written is read as that character. -/
theorem decodeFrom_append (offset : Nat) (ch : Char) (rest : List UInt8) :
    decodeFrom offset (String.utf8EncodeChar ch ++ rest) =
      (ch :: ·) <$> decodeFrom (offset + ch.utf8Size) rest := by
  rw [← String.length_utf8EncodeChar]
  -- The shorter forms are tried first, and the first byte rules them out.
  rcases exists_bytes ch with ⟨a, ha, h⟩ | ⟨a, b, ha, h⟩ | ⟨a, b, c, ha, h⟩ | ⟨a, b, c, d, ha, h⟩
  · rw [encodeChar_of_ascii ha h, List.cons_append, List.nil_append, decodeFrom.eq_def]
    simp only [if_pos ha, List.length_singleton]
    rw [← h, Char.ofNat_toNat]
  · have hne : ¬ a.toNat < 0x80 := by omega
    rw [encodeChar_of_two? h, List.cons_append, List.singleton_append, decodeFrom.eq_def]
    simp only [if_neg hne, h, List.length_cons, List.length_nil]
  · have hne : ¬ a.toNat < 0x80 := by omega
    rw [encodeChar_of_three? h, List.cons_append, List.cons_append, List.singleton_append,
      decodeFrom.eq_def]
    simp only [if_neg hne, two?_eq_none ha, h, List.length_cons, List.length_nil]
  · have hne : ¬ a.toNat < 0x80 := by omega
    rw [encodeChar_of_four? h, List.cons_append, List.cons_append, List.cons_append,
      List.singleton_append, decodeFrom.eq_def]
    simp only [if_neg hne, two?_eq_none (Nat.le_trans (by decide) ha), three?_eq_none ha, h,
      List.length_cons, List.length_nil]

theorem decodeFrom_encode (offset : Nat) (text : List Char) :
    decodeFrom offset (encode text) = .ok text := by
  induction text generalizing offset with
  | nil => rfl
  | cons ch rest ih =>
      rw [encode_cons, decodeFrom_append, ih]
      rfl

/-- A text that was written is read as that text. -/
theorem decode_encode (text : List Char) : decode (encode text) = .ok text :=
  decodeFrom_encode 0 text

/-- A character before a text that was read. -/
theorem exists_of_map_cons {ch : Char} {result : Except Nat (List Char)} {text : List Char}
    (h : (ch :: ·) <$> result = .ok text) : ∃ rest, result = .ok rest ∧ text = ch :: rest := by
  cases result with
  | error offset => cases h
  | ok rest =>
      cases h
      exact ⟨rest, rfl, rfl⟩

theorem encode_of_decodeFrom {offset : Nat} {bytes : List UInt8} {text : List Char}
    (h : decodeFrom offset bytes = .ok text) : encode text = bytes := by
  fun_induction decodeFrom offset bytes generalizing text with
  | case1 =>
      cases h
      rfl
  | case2 offset a rest hlow ih =>
      rcases exists_of_map_cons h with ⟨tail, htail, rfl⟩
      have hvalid : a.toNat.isValidChar := Or.inl (Nat.lt_trans hlow (by decide))
      rw [encode_cons, encodeChar_of_ascii hlow (toNat_charOfNat hvalid), ih htail]
      rfl
  | case3 => cases h
  | case4 offset a hhigh b rest ch hch ih =>
      rcases exists_of_map_cons h with ⟨tail, htail, rfl⟩
      rw [encode_cons, encodeChar_of_two? hch, ih htail]
      rfl
  | case5 => cases h
  | case6 offset a hhigh b hb c rest ch hch ih =>
      rcases exists_of_map_cons h with ⟨tail, htail, rfl⟩
      rw [encode_cons, encodeChar_of_three? hch, ih htail]
      rfl
  | case7 => cases h
  | case8 offset a hhigh b hb c hc d rest ch hch ih =>
      rcases exists_of_map_cons h with ⟨tail, htail, rfl⟩
      rw [encode_cons, encodeChar_of_four? hch, ih htail]
      rfl
  | case9 => cases h

/-- Bytes that were read are those that the text is written as. -/
theorem encode_of_decode {bytes : List UInt8} {text : List Char} (h : decode bytes = .ok text) :
    encode text = bytes :=
  encode_of_decodeFrom h

end Utf8

end Rerun
