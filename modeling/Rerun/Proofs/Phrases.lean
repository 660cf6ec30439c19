import Mathlib.Data.List.TakeWhile
import Rerun.Keyword

/-!
# Phrases and Their Spellings

What the recognisers of keywords accept, said without the recognisers. A
phrase is *spelled* by a text if the text is its words in any case with gaps
between them, and nothing else. `phrase?_eq_some_iff` says that `phrase?`
reads exactly the spellings of its phrase from the front of a text.

The point of the detour is that a spelling knows nothing of what follows it.
A phrase that was read before some rest is read again before any other rest,
so text may be changed behind a phrase without a second look at it. Nor can a
spelling be entered from the middle: `Spells.word_start` says that where a
word begins inside a spelling, it is one of the later words of the phrase.

## Main definitions

* `Keyword.Gaps`: A run of ASCII blanks.
* `Keyword.IsKeyword`: A word of upper case letters.
* `Keyword.Spells`: A text that spells a phrase.
* `Keyword.Initial`: A text that begins with a letter, in either case.

## Theorems

* `isWord_of_toUpper`, `isGap_eq_false`, `isBlank_eq_false`: Letters are no
  blanks.
* `Initial.unique`, `Spells.initial`: Texts are told apart by their first
  letter, and a phrase decides the first letter of its spellings.
* `indentOf_append`, `bodyOf_append`: A line put together from indentation
  and body.
* `word?_eq_some_iff`, `gap?_eq_some_iff`, `phrase?_eq_some_iff`: What the
  recognisers read.
* `Spells.head`, `Spells.last`: A spelling begins with the first letter of
  the phrase and ends with a word character.
* `Spells.mem`: A spelling is made of letters and gaps.
* `Spells.word_start`: A word that begins inside a spelling is a later word
  of the phrase.
* `Spells.cut`: What stands before a gap inside a spelling spells none of
  the last word.
-/

namespace Rerun

namespace Text

theorem isUpper_iff (c : Char) : c.isUpper = true ↔ 65 ≤ c.toNat ∧ c.toNat ≤ 90 :=
  decide_eq_true_iff

theorem isLower_iff (c : Char) : c.isLower = true ↔ 97 ≤ c.toNat ∧ c.toNat ≤ 122 :=
  (Bool.and_eq_true_iff ..).trans (and_congr decide_eq_true_iff decide_eq_true_iff)

theorem isDigit_iff (c : Char) : c.isDigit = true ↔ 48 ≤ c.toNat ∧ c.toNat ≤ 57 :=
  (Bool.and_eq_true_iff ..).trans (and_congr decide_eq_true_iff decide_eq_true_iff)

theorem isWord_iff (c : Char) :
    isWord c = true ↔ (65 ≤ c.toNat ∧ c.toNat ≤ 90) ∨ (97 ≤ c.toNat ∧ c.toNat ≤ 122) ∨
      (48 ≤ c.toNat ∧ c.toNat ≤ 57) ∨ c.toNat = 95 := by
  have hscore : c = '_' ↔ c.toNat = 95 := by
    constructor
    · rintro rfl
      rfl
    · intro h
      exact Char.ext (UInt32.toNat_inj.mp h)
  change (c.isUpper || c.isLower || c.isDigit || c == '_') = true ↔ _
  rw [Bool.or_eq_true, Bool.or_eq_true, Bool.or_eq_true, isUpper_iff, isLower_iff, isDigit_iff,
    beq_iff_eq, hscore]
  omega

theorem isGap_eq_false {c : Char} (h : isWord c = true) : isGap c = false := by
  rw [isWord_iff] at h
  simp only [isGap, Bool.or_eq_false_iff, Bool.and_eq_false_iff, decide_eq_false_iff_not,
    beq_eq_false_iff_ne]
  omega

/-- A character whose upper case is a letter is a letter. -/
theorem isWord_of_toUpper {c : Char} (h : c.toUpper.isUpper = true) : isWord c = true := by
  rw [isWord_iff]
  by_cases hl : 97 ≤ c.toNat ∧ c.toNat ≤ 122
  · exact Or.inr (Or.inl hl)
  · have hc : c.toUpper = c := dif_neg hl
    rw [hc, isUpper_iff] at h
    exact Or.inl h

theorem isBlank_eq_false {c : Char} (h : isWord c = true) : isBlank c = false := by
  rw [isWord_iff] at h
  simp only [isBlank, Bool.or_eq_false_iff, Bool.and_eq_false_iff, decide_eq_false_iff_not,
    beq_eq_false_iff_ne]
  omega

/-- A blank belongs to no word. -/
theorem isWord_eq_false {c : Char} (h : isBlank c = true) : isWord c = false := by
  rw [Bool.eq_false_iff]
  intro hword
  rw [isBlank_eq_false hword] at h
  cases h

theorem indentOf_append {indent body : List Char} (hi : ∀ c ∈ indent, isBlank c = true)
    (hb : body.head?.any isBlank = false) : indentOf (indent ++ body) = indent := by
  rw [indentOf, List.takeWhile_append_of_pos hi]
  cases body with
  | nil => exact List.append_nil indent
  | cons c tail =>
      have hc : ¬ isBlank c = true := by simpa using hb
      rw [List.takeWhile_cons_of_neg hc, List.append_nil]

theorem bodyOf_append {indent body : List Char} (hi : ∀ c ∈ indent, isBlank c = true)
    (hb : body.head?.any isBlank = false) : bodyOf (indent ++ body) = body := by
  rw [bodyOf, List.dropWhile_append_of_pos hi]
  cases body with
  | nil => rfl
  | cons c tail => exact List.dropWhile_cons_of_neg (by simpa using hb)

/-- What is left after a class of characters was dropped begins with none of
    them. -/
theorem head?_dropWhile (p : Char → Bool) (text : List Char) :
    (text.dropWhile p).head?.any p = false := by
  have h := List.head?_dropWhile_not p text
  cases hd : (text.dropWhile p).head? with
  | none => rfl
  | some c => rw [hd] at h; simpa using h

/-- What follows a text does not matter for its body, if it has one. -/
theorem bodyOf_append_of_ne_nil {text : List Char} (h : bodyOf text ≠ []) (after : List Char) :
    bodyOf (text ++ after) = bodyOf text ++ after := by
  have hhead : (bodyOf text ++ after).head?.any isBlank = false := by
    cases hbody : bodyOf text with
    | nil => exact absurd hbody h
    | cons c tail =>
        have hfirst := head?_dropWhile isBlank text
        rwa [show text.dropWhile isBlank = c :: tail from hbody] at hfirst
  have hsplit : text ++ after = indentOf text ++ (bodyOf text ++ after) := by
    rw [← List.append_assoc, indentOf_append_bodyOf]
  rw [hsplit]
  exact bodyOf_append (fun c => isBlank_of_mem_indentOf) hhead

end Text

namespace Keyword

open Text

/-- A run of ASCII blanks. -/
def Gaps (g : List Char) : Prop :=
  ∀ c ∈ g, isGap c = true

/-- A word as the recognisers are given it: upper case letters, at least
    one. -/
def IsKeyword (w : List Char) : Prop :=
  w ≠ [] ∧ ∀ c ∈ w, c.isUpper = true

instance (w : List Char) : Decidable (IsKeyword w) :=
  decidable_of_iff (w ≠ [] ∧ w.all Char.isUpper = true) (and_congr_right fun _ => List.all_eq_true)

/-- A text that spells a phrase: its words, in any case, with gaps between
    them. -/
inductive Spells : List (List Char) → List Char → Prop
  | one {x : List Char} : Spells [x.map Char.toUpper] x
  | more {ws : List (List Char)} {x g y : List Char} (hne : g ≠ []) (hg : Gaps g)
      (hy : Spells ws y) : Spells (x.map Char.toUpper :: ws) (x ++ (g ++ y))

theorem spells_one_iff {w a : List Char} : Spells [w] a ↔ a.map Char.toUpper = w := by
  constructor
  · intro h
    generalize hv : [w] = v at h
    cases h with
    | one => exact (List.cons.inj hv).1.symm
    | more _ _ hy =>
        rw [← (List.cons.inj hv).2] at hy
        cases hy
  · rintro rfl
    exact Spells.one

theorem spells_cons_iff {w v a : List Char} {vs : List (List Char)} :
    Spells (w :: v :: vs) a ↔ ∃ x g y, x.map Char.toUpper = w ∧ g ≠ [] ∧ Gaps g ∧
      Spells (v :: vs) y ∧ a = x ++ (g ++ y) := by
  constructor
  · intro h
    generalize hu : w :: v :: vs = us at h
    cases h with
    | one => cases (List.cons.inj hu).2
    | @more _ x g y hne hg hy =>
        rw [← (List.cons.inj hu).2] at hy
        exact ⟨x, g, y, (List.cons.inj hu).1.symm, hne, hg, hy, rfl⟩
  · rintro ⟨x, g, y, rfl, hne, hg, hy, rfl⟩
    exact Spells.more hne hg hy

/-- A longer last word is spelled by a longer spelling. -/
theorem spells_concat_iff {ws : List (List Char)} {w a : List Char} {u : Char} :
    Spells (ws ++ [w ++ [u]]) a ↔ ∃ b c, Spells (ws ++ [w]) b ∧ c.toUpper = u ∧ a = b ++ [c] := by
  induction ws generalizing a with
  | nil =>
      simp only [List.nil_append, spells_one_iff]
      constructor
      · intro h
        rcases List.map_eq_append_iff.mp h with ⟨b, s, rfl, hb, hs⟩
        rcases List.map_eq_singleton_iff.mp hs with ⟨c, rfl, hc⟩
        exact ⟨b, c, hb, hc, rfl⟩
      · rintro ⟨b, c, rfl, rfl, rfl⟩
        rw [List.map_append, List.map_singleton]
  | cons v vs ih =>
      have hsplit : ∀ w' y : List Char, Spells (v :: vs ++ [w']) y ↔ ∃ x g z,
          x.map Char.toUpper = v ∧ g ≠ [] ∧ Gaps g ∧ Spells (vs ++ [w']) z ∧
            y = x ++ (g ++ z) := by
        intro w' y
        cases vs with
        | nil => exact spells_cons_iff
        | cons v' vs' => exact spells_cons_iff
      rw [hsplit]
      constructor
      · rintro ⟨x, g, y, hx, hne, hg, hy, rfl⟩
        rcases ih.mp hy with ⟨b, c, hb, hc, rfl⟩
        refine ⟨x ++ (g ++ b), c, (hsplit w _).mpr ⟨x, g, b, hx, hne, hg, hb, rfl⟩, hc, ?_⟩
        simp only [List.append_assoc]
      · rintro ⟨_, c, hfirst, hc, rfl⟩
        rcases (hsplit w _).mp hfirst with ⟨x, g, b, hx, hne, hg, hb, rfl⟩
        refine ⟨x, g, b ++ [c], hx, hne, hg, ih.mpr ⟨b, c, hb, hc, rfl⟩, ?_⟩
        simp only [List.append_assoc]

theorem word?_eq_some_iff (w text rest : List Char) :
    word? w text = some rest ↔ ∃ x, x.map Char.toUpper = w ∧ text = x ++ rest := by
  induction w generalizing text with
  | nil =>
      simp only [word?, Option.some.injEq, List.map_eq_nil_iff]
      constructor
      · rintro rfl
        exact ⟨[], rfl, rfl⟩
      · rintro ⟨x, rfl, rfl⟩
        rfl
  | cons d ws ih =>
      cases text with
      | nil =>
          simp only [word?, reduceCtorEq, false_iff, not_exists, not_and]
          intro x hx htext
          rw [(List.nil_eq_append_iff.mp htext).1] at hx
          simp at hx
      | cons c tail =>
          rw [word?]
          by_cases hc : c.toUpper = d
          · rw [if_pos hc, ih]
            constructor
            · rintro ⟨x, rfl, rfl⟩
              exact ⟨c :: x, by rw [List.map_cons, hc], rfl⟩
            · rintro ⟨x, hx, htext⟩
              cases x with
              | nil => simp at hx
              | cons e y =>
                  simp only [List.map_cons, List.cons.injEq] at hx
                  simp only [List.cons_append, List.cons.injEq] at htext
                  exact ⟨y, hx.2, htext.2⟩
          · rw [if_neg hc]
            simp only [reduceCtorEq, false_iff, not_exists, not_and]
            intro x hx htext
            cases x with
            | nil => simp at hx
            | cons e y =>
                simp only [List.map_cons, List.cons.injEq] at hx
                simp only [List.cons_append, List.cons.injEq] at htext
                exact hc (htext.1 ▸ hx.1)

theorem dropWhile_gaps {g rest : List Char} (hg : Gaps g)
    (hrest : rest.head?.any isGap = false) : (g ++ rest).dropWhile isGap = rest := by
  rw [List.dropWhile_append_of_pos hg]
  cases rest with
  | nil => rfl
  | cons c tail => exact List.dropWhile_cons_of_neg (by simpa using hrest)

theorem gap?_eq_some_iff (text rest : List Char) :
    gap? text = some rest ↔
      ∃ g, g ≠ [] ∧ Gaps g ∧ text = g ++ rest ∧ rest.head?.any isGap = false := by
  cases text with
  | nil =>
      simp only [gap?, reduceCtorEq, false_iff, not_exists, not_and]
      intro g hne _ htext
      exact absurd (List.nil_eq_append_iff.mp htext).1 hne
  | cons c tail =>
      rw [gap?]
      by_cases hc : isGap c = true
      · rw [if_pos hc, Option.some.injEq]
        constructor
        · rintro rfl
          refine ⟨c :: tail.takeWhile isGap, List.cons_ne_nil _ _, ?_, ?_, ?_⟩
          · intro d hd
            rcases List.mem_cons.mp hd with rfl | hd
            · exact hc
            · exact List.mem_takeWhile_imp hd
          · rw [List.cons_append, List.takeWhile_append_dropWhile]
          · exact head?_dropWhile isGap tail
        · rintro ⟨g, hne, hg, htext, hrest⟩
          have hdrop := dropWhile_gaps hg hrest
          rw [← htext, List.dropWhile_cons_of_pos hc] at hdrop
          exact hdrop
      · rw [if_neg hc]
        simp only [reduceCtorEq, false_iff, not_exists, not_and]
        intro g hne hg htext
        cases g with
        | nil => exact absurd rfl hne
        | cons d h =>
            simp only [List.cons_append, List.cons.injEq] at htext
            exact absurd (htext.1 ▸ hg d List.mem_cons_self) hc

theorem isWord_of_keyword {w x : List Char} (hw : IsKeyword w) (hx : x.map Char.toUpper = w) :
    ∀ c ∈ x, isWord c = true := by
  intro c hc
  refine isWord_of_toUpper (hw.2 _ ?_)
  rw [← hx]
  exact List.mem_map_of_mem hc

/-- A spelling begins with the first letter of the phrase. -/
theorem Spells.head {ws : List (List Char)} {a : List Char} (h : Spells ws a)
    (hws : ∀ w ∈ ws, IsKeyword w) :
    ∃ w ∈ ws.head?, ∃ c tail, a = c :: tail ∧ w.head? = some c.toUpper ∧ isWord c = true := by
  have hfirst : ∀ x rest : List Char, IsKeyword (x.map Char.toUpper) →
      ∃ c tail, x ++ rest = c :: tail ∧ (x.map Char.toUpper).head? = some c.toUpper ∧
        isWord c = true := by
    intro x rest hx
    cases x with
    | nil => exact absurd rfl hx.1
    | cons c tail =>
        exact ⟨c, tail ++ rest, rfl, rfl, isWord_of_keyword hx rfl c List.mem_cons_self⟩
  cases h with
  | one =>
      have hx := hfirst a [] (hws _ List.mem_cons_self)
      rw [List.append_nil] at hx
      exact ⟨_, rfl, hx⟩
  | more hne hg hy => exact ⟨_, rfl, hfirst _ _ (hws _ List.mem_cons_self)⟩

/-- `phrase?` reads exactly the spellings of a phrase. -/
theorem phrase?_eq_some_iff {w : List Char} {ws : List (List Char)}
    (hws : ∀ v ∈ w :: ws, IsKeyword v) (text rest : List Char) :
    phrase? (w :: ws) text = some rest ↔ ∃ a, Spells (w :: ws) a ∧ text = a ++ rest := by
  induction ws generalizing w text with
  | nil =>
      rw [phrase?, word?_eq_some_iff]
      simp only [spells_one_iff]
  | cons v vs ih =>
      have hvs : ∀ u ∈ v :: vs, IsKeyword u := fun u hu => hws u (List.mem_cons_of_mem w hu)
      have hphrase : phrase? (w :: v :: vs) text
          = ((word? w text).bind gap?).bind (phrase? (v :: vs)) := by
        simp [phrase?, Option.bind_assoc]
      rw [hphrase]
      simp only [Option.bind_eq_some_iff, word?_eq_some_iff, gap?_eq_some_iff, ih hvs,
        spells_cons_iff]
      constructor
      · rintro ⟨_, ⟨_, ⟨x, hx, rfl⟩, g, hne, hg, rfl, -⟩, y, hy, rfl⟩
        exact ⟨x ++ (g ++ y), ⟨x, g, y, hx, hne, hg, hy, rfl⟩, by simp only [List.append_assoc]⟩
      · rintro ⟨_, ⟨x, g, y, hx, hne, hg, hy, rfl⟩, rfl⟩
        -- The gap ends where the next word begins.
        have hend : (y ++ rest).head?.any isGap = false := by
          rcases hy.head hvs with ⟨_, -, c, tail, rfl, -, hc⟩
          simpa using isGap_eq_false hc
        refine ⟨y ++ rest, ⟨g ++ (y ++ rest), ⟨x, hx, ?_⟩, g, hne, hg, rfl, hend⟩, y, hy, rfl⟩
        simp only [List.append_assoc]

/-- A text that begins with the given letter, in either case. -/
def Initial (u : Char) (text : List Char) : Prop :=
  ∃ c tail, text = c :: tail ∧ c.toUpper = u

/-- A text begins with one letter only. -/
theorem Initial.unique {u v : Char} {text : List Char} (hu : Initial u text)
    (hv : Initial v text) : u = v := by
  rcases hu with ⟨c, tail, rfl, rfl⟩
  rcases hv with ⟨d, tail', hd, rfl⟩
  rw [(List.cons.inj hd).1]

/-- What begins with a spelling begins with the first letter of the phrase. -/
theorem Spells.initial {w a : List Char} {ws : List (List Char)} {u : Char}
    (h : Spells (w :: ws) a) (hws : ∀ v ∈ w :: ws, IsKeyword v) (hu : w.head? = some u)
    (rest : List Char) : Initial u (a ++ rest) := by
  rcases h.head hws with ⟨v, hv, c, tail, rfl, hhead, -⟩
  cases hv
  rw [hu] at hhead
  exact ⟨c, tail ++ rest, rfl, (Option.some.inj hhead).symm⟩

/-- A spelling is made of gaps and of letters of the phrase. -/
theorem Spells.mem {ws : List (List Char)} {a : List Char} (h : Spells ws a) :
    ∀ c ∈ a, isGap c = true ∨ ∃ w ∈ ws, c.toUpper ∈ w := by
  induction h with
  | @one x =>
      intro c hc
      exact Or.inr ⟨_, List.mem_singleton_self _, List.mem_map_of_mem hc⟩
  | @more ws x g y hne hg hy ih =>
      intro c hc
      rcases List.mem_append.mp hc with hc | hc
      · exact Or.inr ⟨_, List.mem_cons_self, List.mem_map_of_mem hc⟩
      · rcases List.mem_append.mp hc with hc | hc
        · exact Or.inl (hg c hc)
        · rcases ih c hc with hgap | ⟨w, hw, hcw⟩
          · exact Or.inl hgap
          · exact Or.inr ⟨w, List.mem_cons_of_mem _ hw, hcw⟩

/-- Each letter of a phrase occurs in its spellings. -/
theorem Spells.exists_mem {ws : List (List Char)} {a w : List Char} {u : Char} (h : Spells ws a)
    (hw : w ∈ ws) (hu : u ∈ w) : ∃ c ∈ a, c.toUpper = u := by
  induction h with
  | @one x =>
      rw [List.mem_singleton.mp hw] at hu
      exact List.mem_map.mp hu
  | @more ws x g y hne hg hy ih =>
      rcases List.mem_cons.mp hw with rfl | hw
      · rcases List.mem_map.mp hu with ⟨c, hc, hupper⟩
        exact ⟨c, List.mem_append_left _ hc, hupper⟩
      · rcases ih hw with ⟨c, hc, hupper⟩
        exact ⟨c, List.mem_append_right _ (List.mem_append_right _ hc), hupper⟩

theorem Spells.isGap_or_isWord {ws : List (List Char)} {a : List Char} (h : Spells ws a)
    (hws : ∀ w ∈ ws, IsKeyword w) : ∀ c ∈ a, isGap c = true ∨ isWord c = true := by
  intro c hc
  rcases h.mem c hc with hgap | ⟨w, hw, hcw⟩
  · exact Or.inl hgap
  · exact Or.inr (isWord_of_toUpper ((hws w hw).2 _ hcw))

/-- A spelling ends with a word character. -/
theorem Spells.last {ws : List (List Char)} {a : List Char} (h : Spells ws a)
    (hws : ∀ w ∈ ws, IsKeyword w) : ∃ b c, a = b ++ [c] ∧ isWord c = true := by
  induction h with
  | @one x =>
      have hx := hws _ List.mem_cons_self
      rcases List.eq_nil_or_concat x with rfl | ⟨b, c, rfl⟩
      · exact absurd rfl hx.1
      · rw [List.concat_eq_append]
        exact ⟨b, c, rfl, isWord_of_keyword hx rfl c (by simp)⟩
  | @more ws x g y hne hg hy ih =>
      rcases ih fun w hw => hws w (List.mem_cons_of_mem _ hw) with ⟨b, c, rfl, hc⟩
      exact ⟨x ++ (g ++ b), c, by simp only [List.append_assoc], hc⟩

/-- A character that does not occur in the first part of a text stands in
    the second part. -/
theorem append_cons_split {a b x r : List Char} {c : Char} (hc : c ∉ x)
    (h : a ++ c :: b = x ++ r) : ∃ a', a = x ++ a' ∧ a' ++ c :: b = r := by
  rcases List.append_eq_append_iff.mp h with ⟨x', hx, hrest⟩ | ⟨a', ha, hrest⟩
  · cases x' with
    | nil => exact ⟨[], by rw [hx, List.append_nil, List.append_nil], hrest⟩
    | cons e others =>
        refine absurd ?_ hc
        rw [hx, (List.cons.inj hrest).1]
        simp
  · exact ⟨a', ha, hrest.symm⟩

/-- A word that begins inside a spelling, after a character that belongs to
    no word, is a later word of the phrase. -/
theorem Spells.word_start {ws : List (List Char)} {a b : List Char} {c d : Char}
    (h : Spells ws (a ++ c :: d :: b)) (hws : ∀ w ∈ ws, IsKeyword w)
    (hc : isWord c = false) (hd : isGap d = false) :
    ∃ w ∈ ws.tail, w.head? = some d.toUpper := by
  generalize ht : a ++ c :: d :: b = t at h
  induction h generalizing a with
  | @one x =>
      have hx := isWord_of_keyword (hws _ List.mem_cons_self) rfl c (by rw [← ht]; simp)
      rw [hc] at hx
      cases hx
  | @more ws x g y hne hg hy ih =>
      have hy' : ∀ w ∈ ws, IsKeyword w := fun w hw => hws w (List.mem_cons_of_mem _ hw)
      have hcx : c ∉ x := by
        intro hmem
        have hword := isWord_of_keyword (hws _ List.mem_cons_self) rfl c hmem
        rw [hc] at hword
        cases hword
      rcases append_cons_split hcx ht with ⟨a', -, hrest⟩
      -- The character before the word is in the gap or behind it.
      rcases List.append_eq_append_iff.mp hrest with ⟨g', hgap, hrest⟩ | ⟨a'', -, hrest⟩
      · match g', hrest with
        | [], hrest =>
            rcases hy.head hy' with ⟨_, -, e, tail, rfl, -, he⟩
            rw [← (List.cons.inj hrest).1, hc] at he
            cases he
        | [e], hrest =>
            have hyd : y = d :: b := (List.cons.inj hrest).2.symm
            rcases hy.head hy' with ⟨w, hw, f, tail, hf, hhead, -⟩
            rw [hyd] at hf
            rw [← (List.cons.inj hf).1] at hhead
            exact ⟨w, List.mem_of_mem_head? hw, hhead⟩
        | e :: f :: others, hrest =>
            have hdg : isGap d = true := by
              refine hg d ?_
              rw [hgap, (List.cons.inj (List.cons.inj hrest).2).1]
              simp
            rw [hd] at hdg
            cases hdg
      · rcases ih hy' hrest.symm with ⟨w, hw, hhead⟩
        exact ⟨w, List.mem_of_mem_tail hw, hhead⟩

/-- What stands before a gap inside a spelling spells none of the last
    word. -/
theorem Spells.cut {ws : List (List Char)} {a b : List Char} {c : Char}
    (h : Spells ws (a ++ c :: b)) (hws : ∀ w ∈ ws, IsKeyword w) (hc : isGap c = true) :
    ∀ d ∈ a, isGap d = true ∨ ∃ w ∈ ws.dropLast, d.toUpper ∈ w := by
  generalize ht : a ++ c :: b = t at h
  have hnot : ∀ x : List Char, IsKeyword (x.map Char.toUpper) → c ∉ x := by
    intro x hx hmem
    have hgap := isGap_eq_false (isWord_of_keyword hx rfl c hmem)
    rw [hc] at hgap
    cases hgap
  induction h generalizing a with
  | @one x =>
      refine absurd ?_ (hnot x (hws _ List.mem_cons_self))
      rw [← ht]
      simp
  | @more ws x g y hne hg hy ih =>
      have hy' : ∀ w ∈ ws, IsKeyword w := fun w hw => hws w (List.mem_cons_of_mem _ hw)
      have hdrop : (x.map Char.toUpper :: ws).dropLast = x.map Char.toUpper :: ws.dropLast := by
        rcases hy.head hy' with ⟨w, hw, -⟩
        cases ws with
        | nil => cases hw
        | cons v vs => rfl
      rcases append_cons_split (hnot x (hws _ List.mem_cons_self)) ht with ⟨a', rfl, hrest⟩
      rw [hdrop]
      intro d hd
      rcases List.mem_append.mp hd with hd | hd
      · exact Or.inr ⟨_, List.mem_cons_self, List.mem_map_of_mem hd⟩
      · -- The cut is in the gap, or it is a cut of the later words.
        rcases List.append_eq_append_iff.mp hrest with ⟨g', hgap, -⟩ | ⟨a'', ha, hrest⟩
        · exact Or.inl (hg d (by rw [hgap]; exact List.mem_append_left g' hd))
        · rw [ha] at hd
          rcases List.mem_append.mp hd with hd | hd
          · exact Or.inl (hg d hd)
          · rcases ih hy' hrest.symm d hd with hgap | ⟨w, hw, hdw⟩
            · exact Or.inl hgap
            · exact Or.inr ⟨w, List.mem_cons_of_mem _ hw, hdw⟩

end Keyword

end Rerun
