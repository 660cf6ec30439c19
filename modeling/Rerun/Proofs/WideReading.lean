import Rerun.Proofs.BlankedBytes
import Rerun.Proofs.Guards

/-!
# Searching Widened Text

A guard is searched for in blanked text, and the blanked text of a script comes
in two forms: with one space for each hidden character, and with one space for
each hidden byte. The search finds the same clause in both.

The reason is that the recognisers never count blanks. A gap takes all of them,
a word takes none, and no clause begins with one. So whatever reads one form up
to some mark reads the other form up to the same mark (`Reads`), and this goes
from words and gaps to phrases, clauses and the search. What `search_marks` adds
is where the clause was found: behind the same marks, at the position that these
marks have in either form.

## Main definitions

* `Reads`: Two readings that end at the same mark.

## Theorems

* `reads_word?`, `reads_gap?`, `reads_phrase?`: The recognisers read both forms
  alike.
* `Guard.token?_marks`: A clause at the front of both forms.
* `Guard.search_marks`: The first clause in both forms.
* `Guard.takeWhile_marks`: Both forms up to the column list.
-/

namespace Rerun

open Text Keyword LexState

/-- A reading of the narrowed form and one of the widened form that both fail,
    or both end behind the same marks. -/
def Reads (marks : List Mark) (first second : Option (List Char)) : Prop :=
  (first = none ∧ second = none) ∨
  ∃ used rest, marks = used ++ rest ∧ first = some (narrowed rest) ∧ second = some (widened rest)

namespace Reads

variable {marks : List Mark} {first second : Option (List Char)}

/-- A mark in front of what is read. -/
theorem cons (mark : Mark) (h : Reads marks first second) :
    Reads (mark :: marks) first second := by
  rcases h with hnone | ⟨used, rest, rfl, hfirst, hsecond⟩
  · exact Or.inl hnone
  · exact Or.inr ⟨mark :: used, rest, rfl, hfirst, hsecond⟩

/-- Two readings one after the other. -/
theorem bind {f g : List Char → Option (List Char)} (h : Reads marks first second)
    (hnext : ∀ rest, Reads rest (f (narrowed rest)) (g (widened rest))) :
    Reads marks (first.bind f) (second.bind g) := by
  rcases h with ⟨hfirst, hsecond⟩ | ⟨used, rest, rfl, hfirst, hsecond⟩
  · rw [hfirst, hsecond]
    exact Or.inl ⟨rfl, rfl⟩
  · rw [hfirst, hsecond, Option.bind_some, Option.bind_some]
    rcases hnext rest with hnone | ⟨used', rest', rfl, hfirst', hsecond'⟩
    · exact Or.inl hnone
    · exact Or.inr ⟨used ++ used', rest', (List.append_assoc ..).symm, hfirst', hsecond'⟩

end Reads

/-- A letter is no space, so nothing was added behind it. -/
theorem reads_word? {w : List Char} (hw : ∀ u ∈ w, u.isUpper = true) (marks : List Mark) :
    Reads marks (word? w (narrowed marks)) (word? w (widened marks)) := by
  induction w generalizing marks with
  | nil => exact Or.inr ⟨[], marks, rfl, rfl, rfl⟩
  | cons u us ih =>
      cases marks with
      | nil => exact Or.inl ⟨rfl, rfl⟩
      | cons mark rest =>
          rw [narrowed_cons, widened_cons, word?, word?]
          by_cases hu : mark.narrow.toUpper = u
          · have hne : mark.narrow ≠ ' ' := by
              intro hspace
              have hupper := hw u List.mem_cons_self
              rw [← hu, hspace] at hupper
              exact absurd hupper (by decide)
            rw [if_pos hu, if_pos hu, Mark.pad_eq_zero hne, List.replicate_zero, List.nil_append]
            exact (ih (fun v hv => hw v (List.mem_cons_of_mem u hv)) rest).cons mark
          · rw [if_neg hu, if_neg hu]
            exact Or.inl ⟨rfl, rfl⟩

/-- The blanks that are passed over end at the same mark in both forms. -/
theorem dropWhile_marks (marks : List Mark) :
    ∃ used rest, marks = used ++ rest ∧
      (narrowed marks).dropWhile isGap = narrowed rest ∧
      (widened marks).dropWhile isGap = widened rest := by
  induction marks with
  | nil => exact ⟨[], [], rfl, rfl, rfl⟩
  | cons mark rest ih =>
      by_cases hgap : isGap mark.narrow = true
      · rcases ih with ⟨used, rest', rfl, hnarrowed, hwidened⟩
        -- The spaces behind a blank are passed over with it.
        have hpad : ∀ c ∈ List.replicate mark.pad ' ', isGap c = true := by
          intro c hc
          rw [List.eq_of_mem_replicate hc]
          decide
        refine ⟨mark :: used, rest', rfl, ?_, ?_⟩
        · rw [narrowed_cons, List.dropWhile_cons_of_pos hgap, hnarrowed]
        · rw [widened_cons, List.dropWhile_cons_of_pos hgap, List.dropWhile_append_of_pos hpad,
            hwidened]
      · refine ⟨[], mark :: rest, rfl, List.dropWhile_cons_of_neg hgap, ?_⟩
        rw [widened_cons, List.dropWhile_cons_of_neg hgap]

theorem reads_gap? (marks : List Mark) :
    Reads marks (gap? (narrowed marks)) (gap? (widened marks)) := by
  have hgap?_cons : ∀ (c : Char) (text : List Char),
      gap? (c :: text) = if isGap c then some ((c :: text).dropWhile isGap) else none := by
    intro c text
    rw [gap?]
    by_cases hc : isGap c = true
    · rw [if_pos hc, if_pos hc, List.dropWhile_cons_of_pos hc]
    · rw [if_neg hc, if_neg hc]
  cases marks with
  | nil => exact Or.inl ⟨rfl, rfl⟩
  | cons mark rest =>
      rcases dropWhile_marks (mark :: rest) with ⟨used, rest', hmarks, hnarrowed, hwidened⟩
      rw [widened_cons] at hwidened ⊢
      rw [narrowed_cons] at hnarrowed ⊢
      rw [hgap?_cons, hgap?_cons, hnarrowed, hwidened]
      by_cases hgap : isGap mark.narrow = true
      · rw [if_pos hgap, if_pos hgap]
        exact Or.inr ⟨used, rest', hmarks, rfl, rfl⟩
      · rw [if_neg hgap, if_neg hgap]
        exact Or.inl ⟨rfl, rfl⟩

theorem reads_phrase? {ws : List (List Char)} (hws : ∀ w ∈ ws, IsKeyword w) (marks : List Mark) :
    Reads marks (phrase? ws (narrowed marks)) (phrase? ws (widened marks)) := by
  induction ws generalizing marks with
  | nil => exact Or.inr ⟨[], marks, rfl, rfl, rfl⟩
  | cons w rest ih =>
      have hw := (hws w List.mem_cons_self).2
      have hrest := ih fun v hv => hws v (List.mem_cons_of_mem w hv)
      cases rest with
      | nil => exact reads_word? hw marks
      | cons v vs =>
          -- A word, a gap and the later words, one after the other.
          simp only [phrase?, Option.bind_eq_bind]
          exact (reads_word? hw marks).bind fun after => (reads_gap? after).bind hrest

/-- Both forms begin with the same character. -/
theorem atBoundary_marks (marks : List Mark) :
    atBoundary (widened marks) = atBoundary (narrowed marks) := by
  cases marks with
  | nil => rfl
  | cons mark rest => rw [widened_cons, narrowed_cons, atBoundary, atBoundary]

namespace Guard

/-- A clause at the front of one form is at the front of the other one, and it
    ends behind the same marks. -/
theorem token?_marks (marks : List Mark) :
    (token? (narrowed marks) = none ∧ token? (widened marks) = none) ∨
    ∃ spelling used rest, marks = used ++ rest ∧
      token? (narrowed marks) = some (spelling, narrowed rest) ∧
      token? (widened marks) = some (spelling, widened rest) := by
  rcases reads_phrase? Spelling.typo.isKeyword_words marks with
    ⟨hfirst, hsecond⟩ | ⟨used, rest, rfl, hfirst, hsecond⟩
  · refine Or.inl ⟨?_, ?_⟩
    · rw [token?, show phrase? words _ = none from hfirst]
      rfl
    · rw [token?, show phrase? words _ = none from hsecond]
      rfl
  · have hlast : ∀ u ∈ ['S'], u.isUpper = true := by
      intro u hu
      rw [List.mem_singleton.mp hu]
      decide
    have hnarrowed : phrase? words (narrowed (used ++ rest)) = some (narrowed rest) := hfirst
    have hwidened : phrase? words (widened (used ++ rest)) = some (widened rest) := hsecond
    simp only [token?, hnarrowed, hwidened, Option.bind_eq_bind, Option.bind_some]
    -- Either form may have one more letter, and then the clause is proper.
    rcases reads_word? hlast rest with ⟨hone, htwo⟩ | ⟨letter, after, rfl, hone, htwo⟩
    · simp only [hone, htwo, atBoundary_marks]
      by_cases hend : atBoundary (narrowed rest) = true
      · rw [if_pos hend, if_pos hend]
        exact Or.inr ⟨.typo, used, rest, rfl, rfl, rfl⟩
      · rw [if_neg hend, if_neg hend]
        exact Or.inl ⟨rfl, rfl⟩
    · simp only [hone, htwo, atBoundary_marks]
      by_cases hend : atBoundary (narrowed after) = true
      · rw [if_pos hend, if_pos hend]
        exact Or.inr ⟨.proper, used ++ letter, after, (List.append_assoc ..).symm, rfl, rfl⟩
      · rw [if_neg hend, if_neg hend]
        exact Or.inl ⟨rfl, rfl⟩

/-- No clause begins with a space. -/
theorem search_spaces (pos n : Nat) (text : List Char) :
    search false pos (List.replicate n ' ' ++ text) = search false (pos + n) text := by
  induction n generalizing pos with
  | zero => rfl
  | succ n ih =>
      have hnone : token? (' ' :: (List.replicate n ' ' ++ text)) = none := by
        rw [Option.eq_none_iff_forall_ne_some]
        rintro ⟨spelling, tail⟩ hsome
        rcases (token?_eq_some_iff _ _ _).mp hsome with ⟨t, ht, htext, -⟩
        rcases ht.head spelling.isKeyword_words with ⟨-, -, c, more, rfl, -, hc⟩
        rw [List.cons_append, List.cons.injEq] at htext
        rw [← htext.1] at hc
        exact absurd hc (by decide)
      have hspace : isWord ' ' = false := by decide
      rw [List.replicate_succ, List.cons_append, search, if_neg Bool.false_ne_true, hnone, hspace]
      simp only [ih]
      congr 1
      omega

/-- The same where a clause can only begin if no word has begun before. -/
theorem clause_marks (inWord : Bool) (marks : List Mark) :
    ((if inWord then none else token? (narrowed marks)) = none ∧
      (if inWord then none else token? (widened marks)) = none) ∨
    ∃ spelling used rest, marks = used ++ rest ∧
      (if inWord then none else token? (narrowed marks)) = some (spelling, narrowed rest) ∧
      (if inWord then none else token? (widened marks)) = some (spelling, widened rest) := by
  cases inWord with
  | true => exact Or.inl ⟨rfl, rfl⟩
  | false => exact token?_marks marks

/-- The search passes over the spaces that stand for one character as it passes
    over the character. -/
theorem search_pad (pos : Nat) (mark : Mark) (text : List Char) :
    search (isWord mark.narrow) pos (List.replicate mark.pad ' ' ++ text) =
      search (isWord mark.narrow) (pos + mark.pad) text := by
  by_cases hspace : mark.narrow = ' '
  · rw [hspace]
    exact search_spaces pos mark.pad text
  · rw [Mark.pad_eq_zero hspace]
    rfl

/-- The first clause of one form is the first clause of the other one, and it
    stands on the same marks. -/
theorem search_marks (inWord : Bool) (pos pos' : Nat) (marks : List Mark) :
    (search inWord pos (narrowed marks) = none ∧ search inWord pos' (widened marks) = none) ∨
    ∃ spelling before clause after, marks = before ++ (clause ++ after) ∧
      search inWord pos (narrowed marks) =
        some ⟨spelling, pos + before.length, pos + before.length + clause.length⟩ ∧
      search inWord pos' (widened marks) =
        some ⟨spelling, pos' + (widened before).length,
          pos' + (widened before).length + (widened clause).length⟩ := by
  induction marks generalizing inWord pos pos' with
  | nil => exact Or.inl ⟨rfl, rfl⟩
  | cons mark rest ih =>
      have hwide := widened_cons mark rest
      rcases clause_marks inWord (mark :: rest) with
        ⟨hfirst, hsecond⟩ | ⟨spelling, used, after, hmarks, hfirst, hsecond⟩
      · -- No clause begins here, so both searches go on behind the mark.
        rw [hwide] at hsecond
        rw [narrowed_cons] at hfirst
        rw [hwide, narrowed_cons, search, search, hfirst, hsecond]
        simp only [search_pad]
        rcases ih (isWord mark.narrow) (pos + 1) (pos' + 1 + mark.pad) with hnone |
          ⟨spelling, before, clause, after, rfl, hnarrowed, hwidened⟩
        · exact Or.inl hnone
        · refine Or.inr ⟨spelling, mark :: before, clause, after, rfl, ?_, ?_⟩
          · rw [hnarrowed, List.length_cons, Option.some.injEq, Guard.mk.injEq]
            exact ⟨rfl, by omega, by omega⟩
          · rw [hwidened, widened_cons, List.length_cons, List.length_append,
              List.length_replicate, Option.some.injEq, Guard.mk.injEq]
            exact ⟨rfl, by omega, by omega⟩
      · -- A clause begins here, so no mark stands before it.
        have hlength : (narrowed (mark :: rest)).length - (narrowed after).length =
            used.length := by
          rw [hmarks, narrowed_append, List.length_append, Nat.add_sub_cancel, narrowed,
            List.length_map]
        have hlength' : (widened (mark :: rest)).length - (widened after).length =
            (widened used).length := by
          rw [hmarks, widened_append, List.length_append, Nat.add_sub_cancel]
        refine Or.inr ⟨spelling, [], used, after, hmarks, ?_, ?_⟩
        · rw [narrowed_cons] at hfirst hlength ⊢
          rw [search, hfirst]
          simp only [hlength]
          rfl
        · rw [hwide] at hsecond hlength' ⊢
          rw [search, hsecond]
          simp only [hlength']
          rfl

/-- Both forms end before the same mark where they are cut at the column
    list. -/
theorem takeWhile_marks (marks : List Mark) :
    ∃ kept rest, marks = kept ++ rest ∧
      (narrowed marks).takeWhile (fun c => c != '(') = narrowed kept ∧
      (widened marks).takeWhile (fun c => c != '(') = widened kept := by
  induction marks with
  | nil => exact ⟨[], [], rfl, rfl, rfl⟩
  | cons mark rest ih =>
      have hone : ∀ text, (mark.narrow :: text).takeWhile (fun c => c != '(') =
          if mark.narrow = '(' then [] else mark.narrow :: text.takeWhile (fun c => c != '(') := by
        intro text
        by_cases hparen : mark.narrow = '('
        · rw [if_pos hparen, hparen]
          rfl
        · rw [if_neg hparen]
          exact List.takeWhile_cons_of_pos (bne_iff_ne.mpr hparen)
      by_cases hparen : mark.narrow = '('
      · refine ⟨[], mark :: rest, rfl, ?_, ?_⟩
        · rw [narrowed_cons, hone, if_pos hparen]
          rfl
        · rw [widened_cons, hone, if_pos hparen]
          rfl
      · rcases ih with ⟨kept, rest', rfl, hnarrowed, hwidened⟩
        -- A mark that is kept is kept with all its spaces.
        have hpad : ∀ c ∈ List.replicate mark.pad ' ', (c != '(') = true := by
          intro c hc
          rw [List.eq_of_mem_replicate hc]
          decide
        refine ⟨mark :: kept, rest', rfl, ?_, ?_⟩
        · rw [narrowed_cons, hone, if_neg hparen, hnarrowed]
          rfl
        · rw [widened_cons, hone, if_neg hparen, List.takeWhile_append_of_pos hpad, hwidened,
            widened_cons]

end Guard

end Rerun
