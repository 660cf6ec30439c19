import Rerun.Proofs.Encoding
import Rerun.Proofs.Lexing

/-!
# Lexing Bytes

The lexical rules read characters here, and a file holds bytes. The rules say
the same of both (`LexState.advance_encode`), and this is where it is shown.

Every rule tests for an ASCII character. Such a character is written as the
one byte that the rules test for in its place, and the bytes of any other
character pass no test at all. So a character is lexed by bytes as it is
lexed as a whole, with one place to look at twice: a backslash takes the next
unit along, and of a character of several bytes this is the first byte only.
The bytes that are left over stand in a literal, where a unit that passes no
test is hidden and changes nothing. In code they would be read as code, but
no pair that leads back to code ends with such a character.

`Mark` says of one character whether it is hidden, and `exists_marks` that
one list of marks describes both readings of a line.

## Main definitions

* `Utf8.byte`: The byte of an ASCII character.
* `LexState.tested`: The characters that the rules test for.
* `LexState.Inert`: A unit that passes no test.
* `LexState.Mark`: A character of a line, hidden or not.
* `LexState.Accounts`: Marks that describe both readings of a text.

## Theorems

* `Utf8.encodeChar_cases`: The bytes of a character.
* `Utf8.byte_mem_encode`: ASCII characters are found among the bytes.
* `LexState.step_byte`: The rules for a character and for its byte.
* `LexState.step_inert`: The rules for a unit that passes no test.
* `LexState.exists_marks`: One account of both readings of a line.
* `LexState.advance_encode`: A line has the same effect in bytes.
-/

namespace Rerun

namespace Utf8

/-- The byte of an ASCII character. -/
def byte (c : Char) : UInt8 :=
  c.toNat.toUInt8

theorem toNat_byte {c : Char} (h : c.toNat < 0x80) : (byte c).toNat = c.toNat :=
  toNat_ofNat (Nat.lt_trans h (by decide))

theorem byte_inj {c d : Char} (hc : c.toNat < 0x80) (hd : d.toNat < 0x80) :
    byte c = byte d ↔ c = d := by
  constructor
  · intro h
    have hnat : c.toNat = d.toNat := by rw [← toNat_byte hc, ← toNat_byte hd, h]
    exact Char.ext (UInt32.toNat_inj.mp hnat)
  · rintro rfl
    rfl

/-- The bytes of a character: a single one for an ASCII character, and none
    that could be taken for an ASCII character otherwise. -/
theorem encodeChar_cases (c : Char) :
    (c.toNat < 0x80 ∧ String.utf8EncodeChar c = [byte c]) ∨
    (0x80 ≤ c.toNat ∧ ∃ a more, String.utf8EncodeChar c = a :: more ∧
      ∀ b ∈ a :: more, 0x80 ≤ b.toNat) := by
  rcases exists_bytes c with ⟨a, ha, h⟩ | ⟨a, b, ha, h⟩ | ⟨a, b, d, ha, h⟩ | ⟨a, b, d, e, ha, h⟩
  · have hlow : c.toNat < 0x80 := by omega
    have hbyte : a = byte c := UInt8.toNat_inj.mp (by rw [toNat_byte hlow, h])
    exact Or.inl ⟨hlow, by rw [encodeChar_of_ascii ha h, hbyte]⟩
  · have hbounds := (two?_eq_some_iff a b c).mp h
    refine Or.inr ⟨by omega, a, [b], encodeChar_of_two? h, ?_⟩
    simp only [List.forall_mem_cons, List.not_mem_nil, false_implies, implies_true, and_true]
    omega
  · have hbounds := (three?_eq_some_iff a b d c).mp h
    refine Or.inr ⟨by omega, a, [b, d], encodeChar_of_three? h, ?_⟩
    simp only [List.forall_mem_cons, List.not_mem_nil, false_implies, implies_true, and_true]
    omega
  · have hbounds := (four?_eq_some_iff a b d e c).mp h
    refine Or.inr ⟨by omega, a, [b, d, e], encodeChar_of_four? h, ?_⟩
    simp only [List.forall_mem_cons, List.not_mem_nil, false_implies, implies_true, and_true]
    omega

/-- A byte from 0x80 on is the byte of no ASCII character. -/
theorem ne_byte {b : UInt8} (hb : 0x80 ≤ b.toNat) {d : Char} (hd : d.toNat < 0x80) :
    b ≠ byte d := by
  rintro rfl
  rw [toNat_byte hd] at hb
  omega

/-- An ASCII character is found in a text where its byte is found among the
    bytes of the text. -/
theorem byte_mem_encode {d : Char} (hd : d.toNat < 0x80) (text : List Char) :
    byte d ∈ encode text ↔ d ∈ text := by
  induction text with
  | nil => simp only [encode, List.flatMap_nil, List.not_mem_nil]
  | cons c rest ih =>
      rw [encode_cons, List.mem_append, List.mem_cons, ih]
      refine or_congr_left ?_
      rcases encodeChar_cases c with ⟨hc, hbytes⟩ | ⟨hc, a, more, hbytes, hhigh⟩
      · rw [hbytes, List.mem_singleton, byte_inj hd hc]
      · rw [hbytes]
        constructor
        · intro hmem
          exact absurd rfl (ne_byte (hhigh _ hmem) hd)
        · rintro rfl
          omega

/-- A text begins with an ASCII character if its bytes begin with the byte of
    the character. -/
theorem any_head?_encode {d : Char} (hd : d.toNat < 0x80) (text : List Char) :
    (encode text).head?.any (· == byte d) = text.head?.any (· == d) := by
  cases text with
  | nil => rfl
  | cons c rest =>
      rw [encode_cons, List.head?_cons, Option.any_some]
      rcases encodeChar_cases c with ⟨hc, hbytes⟩ | ⟨hc, a, more, hbytes, hhigh⟩
      · rw [hbytes, List.singleton_append, List.head?_cons, Option.any_some, Bool.eq_iff_iff,
          beq_iff_eq, beq_iff_eq, byte_inj hc hd]
      · have hfirst : a ≠ byte d := ne_byte (hhigh a List.mem_cons_self) hd
        have hwhole : c ≠ d := by
          rintro rfl
          omega
        rw [hbytes, List.cons_append, List.head?_cons, Option.any_some, beq_false_of_ne hfirst,
          beq_false_of_ne hwhole]

end Utf8

namespace LexState

open TextUnit Utf8

theorem unit_byte (c : Char) : (unit c : UInt8) = byte c := rfl

theorem unit_char (c : Char) : (unit c : Char) = c := rfl

/-- The characters that the lexical rules test for. -/
def tested : List Char :=
  '\\' :: special

theorem ascii_of_tested (d : Char) (hd : d ∈ tested) : d.toNat < 0x80 := by
  have hall : tested.all (fun d => d.toNat < 0x80) = true := by decide
  exact of_decide_eq_true (List.all_eq_true.mp hall d hd)

theorem special_of_quotes (q : Char) (hq : q ∈ quotes) : q ∈ special := by
  have hall : quotes.all (fun q => special.contains q) = true := by decide
  exact List.contains_iff_mem.mp (List.all_eq_true.mp hall q hq)

theorem tested_of_quotes (q : Char) (hq : q ∈ quotes) : q ∈ tested :=
  List.mem_cons_of_mem '\\' (special_of_quotes q hq)

/-- What a rule makes of a character depends on the tests that the character
    and the next one pass, and so it is the same for a byte that passes the
    same tests. -/
theorem step_byte {s : LexState} (hs : s.Real) {c : Char} {b : UInt8} {next : Option Char}
    {after : Option UInt8} (hhere : ∀ d ∈ tested, (b == byte d) = (c == d))
    (hnext : ∀ d ∈ tested, after.any (· == byte d) = next.any (· == d)) :
    step s b after = step s c next := by
  cases s with
  | code =>
      have hdash := hhere '-' (by decide)
      have hslash := hhere '/' (by decide)
      have hfind : quotes.find? (fun q => b == byte q) = quotes.find? fun q => c == q := by
        simp only [quotes, List.find?_cons, List.find?_nil, hhere '\x27' (by decide),
          hhere '\x22' (by decide), hhere '\x60' (by decide)]
      have hcomment := hnext '-' (by decide)
      have hstar := hnext '*' (by decide)
      simp only [step, unit_byte, unit_char, hdash, hslash, hfind, hcomment, hstar]
  | blockComment =>
      have hstar := hhere '*' (by decide)
      have hslash := hnext '/' (by decide)
      simp only [step, unit_byte, unit_char, hstar, hslash]
  | quoted q =>
      have hback := hhere '\\' (by decide)
      have hquote := hhere q (tested_of_quotes q hs)
      have hdouble := hnext q (tested_of_quotes q hs)
      have hgrave : (byte q == byte '\x60') = (q == '\x60') := by
        rw [Bool.eq_iff_iff, beq_iff_eq, beq_iff_eq,
          byte_inj (ascii_of_tested q (tested_of_quotes q hs)) (by decide)]
      simp only [step, unit_byte, unit_char, hback, hquote, hdouble, hgrave]

section Inert

variable {α : Type} [BEq α] [TextUnit α]

/-- A unit that passes no test. -/
def Inert (a : α) : Prop :=
  ∀ d ∈ tested, (a == unit d) = false

/-- A unit that passes no test is code in code, and hidden elsewhere. It
    leaves the state as it is. -/
theorem step_inert {s : LexState} (hs : s.Real) {a : α} (h : Inert a) (next : Option α) :
    step s a next = if s = code then .code else .hide s false := by
  cases s with
  | code =>
      have hno : quotes.find? (fun q => a == unit q) = none :=
        List.find?_eq_none.mpr fun q hq => by rw [h q (tested_of_quotes q hq)]; decide
      simp only [step, h '-' (by decide), h '/' (by decide), hno, Bool.false_and,
        Bool.false_eq_true, if_false, if_true]
  | blockComment =>
      simp only [step, h '*' (by decide), Bool.false_and, Bool.false_eq_true, if_false,
        reduceCtorEq]
  | quoted q =>
      simp only [step, h '\\' (by decide), h q (tested_of_quotes q hs), Bool.false_and,
        Bool.false_eq_true, if_false, reduceCtorEq]

end Inert

theorem inert_char {c : Char} (h : 0x80 ≤ c.toNat) : Inert c := by
  intro d hd
  have hascii := ascii_of_tested d hd
  refine beq_false_of_ne ?_
  intro hcd
  rw [show c = d from hcd] at h
  omega

theorem inert_byte {b : UInt8} (h : 0x80 ≤ b.toNat) : Inert b :=
  fun d hd => beq_false_of_ne (ne_byte h (ascii_of_tested d hd))

/-- A character of a line, and whether it is code. -/
structure Mark where
  char : Char
  code : Bool

/-- A unit that is code, or nothing where it is hidden. -/
def shown {β : Type} (code : Bool) (b : β) : Option β :=
  if code then some b else none

namespace Mark

/-- What a walk over characters makes of the character. -/
def whole (mark : Mark) : Option Char :=
  shown mark.code mark.char

/-- What a walk over bytes makes of the character. -/
def bytes (mark : Mark) : List (Option UInt8) :=
  (String.utf8EncodeChar mark.char).map (shown mark.code)

end Mark

/-- Bytes that pass no test have no effect on what follows. -/
theorem walk_high {s : LexState} (hs : s.Real) {bytes : List UInt8}
    (h : ∀ b ∈ bytes, 0x80 ≤ b.toNat) (rest : List UInt8) :
    walk s false (bytes ++ rest) =
      (bytes.map (shown (s == code)) ++ (walk s false rest).1, (walk s false rest).2) := by
  induction bytes with
  | nil => rfl
  | cons b more ih =>
      have hstep := step_inert hs (inert_byte (h b List.mem_cons_self)) (more ++ rest).head?
      have hmore := ih fun d hd => h d (List.mem_cons_of_mem b hd)
      rw [List.cons_append, walk_cons, hstep]
      by_cases hcode : s = code
      · rw [if_pos hcode, hmore, hcode]
        rfl
      · rw [if_neg hcode, beq_false_of_ne hcode] at *
        simp only [hmore]
        rfl

/-- Where a pair leads back to code, its second character is a slash. -/
theorem ascii_of_pair {s : LexState} {c : Char} {next : Option Char}
    (h : step s c next = .hide code true) : ∀ d ∈ next, d.toNat < 0x80 := by
  intro d hd
  cases s with
  | code =>
      simp only [step] at h
      split at h
      · cases h
      · split at h
        · cases h
        · split at h <;> cases h
  | blockComment =>
      simp only [step] at h
      split at h
      · rename_i hends
        rw [Bool.and_eq_true, Option.mem_def.mp hd, Option.any_some] at hends
        rw [eq_of_beq hends.2]
        decide
      · cases h
  | quoted q =>
      simp only [step] at h
      split at h
      · cases h
      · split at h
        · split at h <;> cases h
        · cases h

/-- One list of marks for a walk over the characters of a text and for a walk
    over its bytes. -/
structure Accounts (s : LexState) (skip : Bool) (text : List Char) (marks : List Mark) : Prop where
  chars : marks.map Mark.char = text
  whole : (walk s skip text).1 = marks.map Mark.whole
  bytes : walk s skip (encode text) = (marks.flatMap Mark.bytes, (walk s skip text).2)

/-- A first character, of which both walks make the same. -/
theorem Accounts.cons {s t : LexState} {skip pair : Bool} {c : Char} {rest : List Char}
    {marks : List Mark} (h : Accounts t pair rest marks) (seen : Bool)
    (hwhole : walk s skip (c :: rest) = (shown seen c :: (walk t pair rest).1,
      (walk t pair rest).2))
    (hbytes : walk s skip (encode (c :: rest)) =
      ((String.utf8EncodeChar c).map (shown seen) ++ (walk t pair (encode rest)).1,
        (walk t pair (encode rest)).2)) :
    Accounts s skip (c :: rest) (⟨c, seen⟩ :: marks) := by
  refine ⟨by rw [List.map_cons, h.chars], ?_, ?_⟩
  · rw [hwhole, h.whole]
    rfl
  · rw [hbytes, hwhole, h.bytes]
    rfl

/-- Where a line comment begins, all that is left is hidden. -/
theorem accounts_hidden {s : LexState} {skip : Bool} {text : List Char}
    (hwhole : walk s skip text = (text.map fun _ => none, s))
    (hbytes : walk s skip (encode text) = ((encode text).map fun _ => none, s)) :
    Accounts s skip text (text.map fun c => ⟨c, false⟩) := by
  refine ⟨?_, ?_, ?_⟩
  · rw [List.map_map]
    exact List.map_id text
  · rw [hwhole, List.map_map]
    rfl
  · rw [hbytes, hwhole, List.flatMap_map, encode, List.map_flatMap]
    rfl

/-- A character of a single byte. The byte passes the same tests as the
    character, and so both walks go on in the same state. -/
theorem accounts_ascii {s : LexState} (hs : s.Real) (skip : Bool) {c : Char} {rest : List Char}
    (hc : c.toNat < 0x80) (hbytes : String.utf8EncodeChar c = [byte c])
    (hrest : ∀ t : LexState, t.Real → ∀ pair : Bool,
      (pair = true → t = code → ∀ d ∈ rest.head?, d.toNat < 0x80) →
        ∃ marks, Accounts t pair rest marks) :
    ∃ marks, Accounts s skip (c :: rest) marks := by
  have hhere : ∀ d ∈ tested, (byte c == byte d) = (c == d) := by
    intro d hd
    rw [Bool.eq_iff_iff, beq_iff_eq, beq_iff_eq, byte_inj hc (ascii_of_tested d hd)]
  have hnext : ∀ d ∈ tested, (encode rest).head?.any (· == byte d) = rest.head?.any (· == d) :=
    fun d hd => any_head?_encode (ascii_of_tested d hd) rest
  have hencode : encode (c :: rest) = byte c :: encode rest := by
    rw [encode_cons, hbytes, List.singleton_append]
  have hno : ∀ t : LexState, false = true → t = code → ∀ d ∈ rest.head?, d.toNat < 0x80 := by
    intro t hfalse
    cases hfalse
  cases skip with
  | true =>
      rcases hrest s hs false (hno s) with ⟨marks, hmarks⟩
      exact ⟨_, hmarks.cons false (walk_skip s c rest) (by rw [hencode, hbytes, walk_skip]; rfl)⟩
  | false =>
      have hwhole := walk_cons s c rest
      have hpieces := walk_cons s (byte c) (encode rest)
      rw [← hencode, step_byte hs hhere hnext] at hpieces
      cases hstep : step s c rest.head? with
      | comment =>
          rw [hstep] at hwhole hpieces
          exact ⟨_, accounts_hidden hwhole (by rw [hpieces, hencode]; rfl)⟩
      | code =>
          rw [hstep] at hwhole hpieces
          rcases hrest s hs false (hno s) with ⟨marks, hmarks⟩
          exact ⟨_, hmarks.cons true hwhole (by rw [hpieces, hbytes]; rfl)⟩
      | hide next pair =>
          rw [hstep] at hwhole hpieces
          have hafter : pair = true → next = code → ∀ d ∈ rest.head?, d.toNat < 0x80 := by
            rintro rfl rfl
            exact ascii_of_pair hstep
          rcases hrest next (real_of_step_hide hs hstep) pair hafter with ⟨marks, hmarks⟩
          exact ⟨_, hmarks.cons false hwhole (by rw [hpieces, hbytes]; rfl)⟩

/-- A character of several bytes. None of them passes a test, so they are all
    code in code, and hidden elsewhere. -/
theorem accounts_wide {s : LexState} (hs : s.Real) {skip : Bool} {c : Char} {rest : List Char}
    {a : UInt8} {more : List UInt8} {marks : List Mark} (hc : 0x80 ≤ c.toNat)
    (hbytes : String.utf8EncodeChar c = a :: more) (hhigh : ∀ b ∈ a :: more, 0x80 ≤ b.toNat)
    (hskip : skip = true → s ≠ code) (hmarks : Accounts s false rest marks) :
    Accounts s skip (c :: rest) (⟨c, s == code⟩ :: marks) := by
  have hencode : encode (c :: rest) = a :: more ++ encode rest := by rw [encode_cons, hbytes]
  cases skip with
  | true =>
      -- The first byte is skipped, and the others are hidden by the state.
      have hmore : ∀ b ∈ more, 0x80 ≤ b.toNat := fun b hb => hhigh b (List.mem_cons_of_mem a hb)
      refine hmarks.cons (s == code) ?_ ?_
      · rw [walk_skip, beq_false_of_ne (hskip rfl)]
        rfl
      · rw [hencode, hbytes, List.cons_append, walk_skip, walk_high hs hmore,
          beq_false_of_ne (hskip rfl)]
        rfl
  | false =>
      refine hmarks.cons (s == code) ?_ ?_
      · rw [walk_cons, step_inert hs (inert_char hc)]
        by_cases hcode : s = code
        · rw [if_pos hcode, hcode]
          rfl
        · rw [if_neg hcode, beq_false_of_ne hcode]
          rfl
      · rw [hencode, hbytes, walk_high hs hhigh]

/-- Both walks over a text have an account in common. If the first unit is
    skipped and code follows, then it must be a character of a single byte. -/
theorem exists_marks {s : LexState} (hs : s.Real) (skip : Bool) (text : List Char)
    (hskip : skip = true → s = code → ∀ c ∈ text.head?, c.toNat < 0x80) :
    ∃ marks, Accounts s skip text marks := by
  induction text generalizing s skip with
  | nil => exact ⟨[], rfl, rfl, rfl⟩
  | cons c rest ih =>
      rcases encodeChar_cases c with ⟨hc, hbytes⟩ | ⟨hc, a, more, hbytes, hhigh⟩
      · exact accounts_ascii hs skip hc hbytes fun t ht pair => ih ht pair
      · rcases ih hs false (by simp) with ⟨marks, hmarks⟩
        refine ⟨_, accounts_wide hs hc hbytes hhigh ?_ hmarks⟩
        intro htrue hcode
        have hlow := hskip htrue hcode c rfl
        omega

/-- An ASCII character is seen in the code of a line as often as its byte. -/
theorem countP_bytes {d : Char} (hd : d.toNat < 0x80) (marks : List Mark) :
    (marks.flatMap Mark.bytes).countP (fun u => u.any (· == byte d)) =
      (marks.map Mark.whole).countP fun u => u.any (· == d) := by
  have hone : ∀ mark : Mark, mark.bytes.countP (fun u => u.any (· == byte d)) =
      if mark.whole.any (· == d) then 1 else 0 := by
    rintro ⟨c, seen⟩
    rcases encodeChar_cases c with ⟨hc, hbytes⟩ | ⟨hc, a, more, hbytes, hhigh⟩
    · have hsame : (byte c == byte d) = (c == d) := by
        rw [Bool.eq_iff_iff, beq_iff_eq, beq_iff_eq, byte_inj hc hd]
      rw [Mark.bytes, Mark.whole, hbytes, List.map_singleton, List.countP_singleton]
      cases seen
      · rfl
      · simp only [shown, if_true, Option.any_some, hsame]
    · have hno : (Mark.mk c seen).whole.any (· == d) = false := by
        have hcd : c ≠ d := by
          rintro rfl
          omega
        cases seen
        · rfl
        · exact beq_false_of_ne hcd
      rw [hno, if_neg Bool.false_ne_true, List.countP_eq_zero]
      intro u hu
      rw [Mark.bytes, hbytes] at hu
      rcases List.mem_map.mp hu with ⟨b, hb, rfl⟩
      have hbd := beq_false_of_ne (ne_byte (hhigh b hb) hd)
      cases seen
      · exact Bool.false_ne_true
      · simp only [shown, if_true, Option.any_some, hbd, Bool.false_eq_true, not_false_eq_true]
  induction marks with
  | nil => rfl
  | cons mark rest ih =>
      rw [List.flatMap_cons, List.countP_append, ih, hone, List.map_cons, List.countP_cons,
        Nat.add_comm]

/-- A line has the same effect in bytes. -/
theorem advance_encode {s : LexState} (hs : s.Real) (line : List Char) :
    s.advance (encode line) = s.advance line := by
  rcases exists_marks hs false line (by simp) with ⟨marks, hmarks⟩
  have hcount : ∀ d : Char, d.toNat < 0x80 →
      (walk s false (encode line)).1.countP (fun u => u.any (· == byte d)) =
        (walk s false line).1.countP fun u => u.any (· == d) := by
    intro d hd
    rw [hmarks.bytes, hmarks.whole]
    exact countP_bytes hd marks
  have hlast : (walk s false (encode line)).2 = (walk s false line).2 := by rw [hmarks.bytes]
  simp only [advance, unit_byte, unit_char, hcount ';' (by decide), hcount '(' (by decide),
    hcount ')' (by decide), hlast]

end LexState

end Rerun
