import Rerun.Proofs.ByteLexing

/-!
# Blanking Bytes

Comments and literals can be blanked out byte by byte: each byte that is not
read as code becomes a space. What is left is the text of some characters again
(`decode_blankedBytes`), although a pair of bytes may end in the middle of a
character. The rest of that character stands in the literal that the pair
belongs to, so a character is kept as a whole or blanked out as a whole, and
`LexState.exists_marks` says which.

Blanking the characters of a text (`codeOnly`) gives a single space for a hidden
character, and blanking its bytes gives as many spaces as the character has
bytes. One list of marks has both forms, the *narrowed* and the *widened* one.
The narrowed form keeps positions counted in characters and the widened form
keeps offsets counted in bytes. `Utf8.size_widened` is what a comparison of the
two depends on.

## Main definitions

* `blankedBytes`: The bytes of a text, blanked out where they are hidden.
* `Visited`: A byte that is read as code.
* `Mark.narrow`, `Mark.wide`: What blanking makes of a character.
* `Mark.pad`: The number of spaces that the wide form has more.
* `narrowed`, `widened`: The two blanked forms of a text.

## Theorems

* `Mark.wide_eq`, `Mark.pad_eq_zero`: The wide form of a character, compared
  with the narrow one.
* `Utf8.size_widened`: The widened form has the offsets of the text.
* `exists_accounts`: The two blanked forms of a text, by its marks.
* `decode_blankedBytes`: Blanked bytes are the text of some characters.
* `length_blankedBytes`: Blanking keeps the number of bytes.
* `getElem?_blankedBytes`: What stands at an offset of the blanked bytes.
-/

namespace Rerun

open Text LexState

/-- The bytes of a text, with each byte inside a comment or a literal replaced
    by a space. -/
def blankedBytes (text : List Char) : List UInt8 :=
  (walk code false (Utf8.encode text)).1.map fun b => b.getD 0x20

/-- The byte at an offset is read as code. -/
def Visited (text : List Char) (i : Nat) : Prop :=
  ∃ b, (walk code false (Utf8.encode text)).1[i]? = some (some b)

namespace LexState

namespace Mark

/-- The character, or a space if it is hidden. -/
def narrow (mark : Mark) : Char :=
  mark.whole.getD ' '

/-- The character, or as many spaces as it has bytes if it is hidden. -/
def wide (mark : Mark) : List Char :=
  if mark.code then [mark.char] else List.replicate mark.char.utf8Size ' '

/-- The number of spaces that stand behind the first one for a hidden
    character. -/
def pad (mark : Mark) : Nat :=
  if mark.code then 0 else mark.char.utf8Size - 1

/-- The wide form begins with the narrow one. -/
theorem wide_eq (mark : Mark) : mark.wide = mark.narrow :: List.replicate mark.pad ' ' := by
  rcases mark with ⟨c, code⟩
  cases code with
  | true => rfl
  | false =>
      have hpos := c.utf8Size_pos
      have hsize : c.utf8Size = c.utf8Size - 1 + 1 := by omega
      rw [wide, if_neg Bool.false_ne_true, pad, if_neg Bool.false_ne_true]
      conv => lhs; rw [hsize, List.replicate_succ]
      rfl

/-- Only a space has others behind it. -/
theorem pad_eq_zero {mark : Mark} (h : mark.narrow ≠ ' ') : mark.pad = 0 := by
  rcases mark with ⟨c, code⟩
  cases code with
  | true => rfl
  | false => exact absurd rfl h

end Mark

/-- Marked characters with a space for each hidden one. -/
def narrowed (marks : List Mark) : List Char :=
  marks.map Mark.narrow

/-- Marked characters with a space for each byte of a hidden one. -/
def widened (marks : List Mark) : List Char :=
  marks.flatMap Mark.wide

theorem narrowed_cons (mark : Mark) (rest : List Mark) :
    narrowed (mark :: rest) = mark.narrow :: narrowed rest :=
  rfl

theorem widened_cons (mark : Mark) (rest : List Mark) :
    widened (mark :: rest) = mark.narrow :: (List.replicate mark.pad ' ' ++ widened rest) := by
  rw [widened, List.flatMap_cons, mark.wide_eq, List.cons_append, widened]

theorem narrowed_append (a b : List Mark) : narrowed (a ++ b) = narrowed a ++ narrowed b :=
  List.map_append

theorem widened_append (a b : List Mark) : widened (a ++ b) = widened a ++ widened b :=
  List.flatMap_append

end LexState

namespace Utf8

theorem size_replicate_space (n : Nat) : size (List.replicate n ' ') = n := by
  induction n with
  | zero => rfl
  | succ n ih =>
      rw [List.replicate_succ, size_cons, ih, Nat.add_comm]
      rfl

theorem encode_replicate_space (n : Nat) :
    encode (List.replicate n ' ') = List.replicate n 0x20 := by
  induction n with
  | zero => rfl
  | succ n ih =>
      rw [List.replicate_succ, encode_cons, ih, List.replicate_succ]
      rfl

/-- The widened form takes as many bytes as the characters do. -/
theorem size_widened (marks : List Mark) : size (widened marks) = size (marks.map Mark.char) := by
  induction marks with
  | nil => rfl
  | cons mark rest ih =>
      have hone : size mark.wide = mark.char.utf8Size := by
        rw [Mark.wide]
        by_cases hcode : mark.code = true
        · rw [if_pos hcode, size_cons, size_nil, Nat.add_zero]
        · rw [if_neg hcode, size_replicate_space]
      rw [widened, List.flatMap_cons, size_append, hone, ← widened, ih, List.map_cons, size_cons]

/-- Blanking the bytes of a character gives the bytes of its wide form. -/
theorem encode_wide (mark : Mark) :
    mark.bytes.map (fun b => b.getD 0x20) = encode mark.wide := by
  rcases mark with ⟨c, code⟩
  rw [Mark.bytes, Mark.wide, List.map_map]
  cases code with
  | true =>
      rw [if_pos rfl, encode_cons]
      exact (List.map_id _).trans (List.append_nil _).symm
  | false =>
      rw [if_neg Bool.false_ne_true, encode_replicate_space, ← String.length_utf8EncodeChar]
      exact List.map_const'

theorem encode_widened (marks : List Mark) :
    (marks.flatMap Mark.bytes).map (fun b => b.getD 0x20) = encode (widened marks) := by
  induction marks with
  | nil => rfl
  | cons mark rest ih =>
      have hsplit : encode (widened (mark :: rest)) = encode mark.wide ++ encode (widened rest) :=
        List.flatMap_append
      rw [List.flatMap_cons, List.map_append, ih, encode_wide, hsplit]

end Utf8

/-- The characters of a text with their marks, and the two blanked forms. -/
theorem exists_accounts (text : List Char) :
    ∃ marks : List Mark, marks.map Mark.char = text ∧ codeOnly text = narrowed marks ∧
      blankedBytes text = Utf8.encode (widened marks) := by
  rcases exists_marks real_code false text (by simp) with ⟨marks, hmarks⟩
  refine ⟨marks, hmarks.chars, ?_, ?_⟩
  · rw [codeOnly, hmarks.whole, List.map_map]
    rfl
  · rw [blankedBytes, hmarks.bytes, Utf8.encode_widened]

/-- Blanked bytes are the text of some characters. -/
theorem decode_blankedBytes (text : List Char) :
    ∃ blanked, Utf8.decode (blankedBytes text) = .ok blanked := by
  rcases exists_accounts text with ⟨marks, -, -, hbytes⟩
  rw [hbytes]
  exact ⟨widened marks, Utf8.decode_encode _⟩

/-- Blanking keeps the number of bytes. -/
theorem length_blankedBytes (text : List Char) :
    (blankedBytes text).length = Utf8.size text := by
  rw [blankedBytes, List.length_map, length_walk, Utf8.length_encode]

/-- A byte that is read as code is kept, and any other one is a space. -/
theorem getElem?_blankedBytes {text : List Char} {i : Nat} (hi : i < Utf8.size text) :
    (Visited text i → (blankedBytes text)[i]? = (Utf8.encode text)[i]?) ∧
      (¬ Visited text i → (blankedBytes text)[i]? = some 0x20) := by
  have hwalk : i < (walk code false (Utf8.encode text)).1.length := by
    rw [length_walk, Utf8.length_encode]
    exact hi
  rw [blankedBytes, List.getElem?_map]
  constructor
  · rintro ⟨b, hb⟩
    rw [hb, getElem?_of_visited _ _ _ hb]
    rfl
  · intro hhidden
    rw [List.getElem?_eq_getElem hwalk]
    cases hseen : (walk code false (Utf8.encode text)).1[i] with
    | none => rfl
    | some b => exact absurd ⟨b, by rw [List.getElem?_eq_getElem hwalk, hseen]⟩ hhidden

end Rerun
