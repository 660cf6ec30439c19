import Rerun.Lex
import Rerun.Text.Blank

/-!
# Cutting a Line

Where a line can be cut so that its parts are lexed one after the other.

The lexical rules look at one character and the one after it, so a line
cannot be cut anywhere: between the two hyphens of a comment marker neither
part shows the marker. It can be cut before a *plain* character, one that
never is the second half of anything, and it can be cut after one that is
read as code. Every edit of a line happens between such characters, because
keywords are made of letters and blanks only.

`reach` is the state of the lexer at a cut. Unlike `walk` it tells a line
comment from code, since a comment swallows whatever is put after it.
`Closed` texts lead from code back to code, and what follows a closed text is
lexed as if it stood alone (`walk_closed_append`). The effects of the two parts
then add up (`advance_closed_append`). A `Silent` text has no effect at all, and
blanks and words are always silent.

## Main definitions

* `LexState.plain`: A character that takes part in no lexical rule.
* `LexState.Real`: A state that a script can be in.
* `LexState.reach`: The state at a cut, and whether a pair was cut.
* `LexState.CutAt`: A place where a text can be cut.
* `LexState.Closed`: A text that leads from code to code.
* `LexState.Silent`: A text that has no effect on the line it is part of.
* `Bland`: A text of blanks and words.
* `Piece`: The place of a piece of blanked text.

## Theorems

* `plain_of_isBlank`, `plain_of_isWord`: Blanks and word characters are plain.
* `step_plain`: A plain character in code is code.
* `step_before_plain`, `step_after_plain`: What follows a character does not
  matter if either of the two is plain.
* `walk_append`: What follows a cut is lexed from the state at the cut.
* `reach_append`: The state at a cut, by way of an earlier cut.
* `closed_of_visited`: What stands before a character that is read as code
  is closed.
* `walk_closed_append`: What follows a closed text is lexed as if alone.
* `advance_closed_append`: The effect of a line, by that of its parts.
* `advance_silent_append`, `advance_bland_append`: A front without effect.
* `walk_plain_append`: A plain text in code is code throughout.
* `visited_of_codeOnly`: What survives blanking is read as code.
* `codeOnly_closed_append`, `codeOnly_of_plain`: Blanking, part by part.
* `exists_piece`: A piece of blanked text is cut out of the text.
* `advance_of_codeOnly`, `silent_of_codeOnly`: A text with nothing but blanks
  and words in its code.
-/

namespace Rerun

namespace LexState

open Text

/-- The characters that the lexical rules test for in code, or after another
    character. -/
def special : List Char := ['-', '/', '*', '\x27', '\x22', '\x60']

/-- A character that takes part in no lexical rule of code, neither as the
    first nor as the second of a pair. -/
def plain (c : Char) : Bool :=
  !special.contains c

/-- A class of characters is plain if no special character is in it. -/
theorem plain_of_class {p : Char → Bool} (hp : special.all (fun c => !p c) = true) {c : Char}
    (h : p c = true) : plain c = true := by
  rw [plain, Bool.not_eq_true', List.contains_eq_mem, decide_eq_false_iff_not]
  intro hc
  have hno := List.all_eq_true.mp hp c hc
  rw [h] at hno
  exact absurd hno (by decide)

theorem plain_of_isBlank {c : Char} (h : isBlank c = true) : plain c = true :=
  plain_of_class (by decide) h

theorem plain_of_isWord {c : Char} (h : isWord c = true) : plain c = true :=
  plain_of_class (by decide) h

/-- A state that a script can be in: only the three quotes open a literal. -/
def Real : LexState → Prop
  | quoted q => q ∈ quotes
  | _ => True

/-- A plain character in code is code, whatever follows. -/
theorem step_plain {c : Char} (h : plain c = true) (next : Option Char) :
    step code c next = .code := by
  simp only [plain, special, Bool.not_eq_true', List.contains_eq_mem, List.mem_cons,
    List.not_mem_nil, or_false, decide_eq_false_iff_not, not_or] at h
  rcases h with ⟨h1, h2, -, h4, h5, h6⟩
  simp [step, quotes, TextUnit.unit, h1, h2, h4, h5, h6]

/-- What follows a character does not matter if it is plain. -/
theorem step_before_plain {s : LexState} (hs : s.Real) (a : Char) {next : Option Char}
    (h : next.all plain = true) : step s a next = step s a none := by
  cases next with
  | none => rfl
  | some c =>
      simp only [Option.all_some, plain, special, Bool.not_eq_true', List.contains_eq_mem,
        List.mem_cons, List.not_mem_nil, or_false, decide_eq_false_iff_not, not_or] at h
      rcases h with ⟨h1, h2, h3, h4, h5, h6⟩
      cases s with
      | code => simp [step, quotes, TextUnit.unit, h1, h3]
      | blockComment => simp [step, TextUnit.unit, h2]
      | quoted q =>
          have hq : c ≠ q := by
            rintro rfl
            simp [Real, quotes, h4, h5, h6] at hs
          simp [step, TextUnit.unit, hq]

/-- What follows a plain character does not matter either. -/
theorem step_after_plain {s : LexState} (hs : s.Real) {a : Char} (h : plain a = true)
    (next : Option Char) : step s a next = step s a none := by
  simp only [plain, special, Bool.not_eq_true', List.contains_eq_mem, List.mem_cons,
    List.not_mem_nil, or_false, decide_eq_false_iff_not, not_or] at h
  rcases h with ⟨h1, h2, h3, h4, h5, h6⟩
  cases s with
  | code => simp [step, quotes, TextUnit.unit, h1, h2]
  | blockComment => simp [step, TextUnit.unit, h3]
  | quoted q =>
      have hq : a ≠ q := by
        rintro rfl
        simp [Real, quotes, h4, h5, h6] at hs
      simp [step, TextUnit.unit, hq]

/-- Outside code every character is hidden. -/
theorem step_of_ne_code {α : Type} [BEq α] [TextUnit α] {s : LexState} (hs : s ≠ code) (a : α)
    (next : Option α) : ∃ t pair, step s a next = .hide t pair := by
  cases s with
  | code => exact absurd rfl hs
  | blockComment =>
      simp only [step]
      split <;> exact ⟨_, _, rfl⟩
  | quoted q =>
      simp only [step]
      split
      · exact ⟨_, _, rfl⟩
      · split
        · split <;> exact ⟨_, _, rfl⟩
        · exact ⟨_, _, rfl⟩

theorem code_of_step_comment {α : Type} [BEq α] [TextUnit α] {s : LexState} {a : α}
    {next : Option α} (h : step s a next = .comment) : s = code := by
  by_cases hs : s = code
  · exact hs
  · rcases step_of_ne_code hs a next with ⟨t, pair, ht⟩
    rw [ht] at h
    cases h

theorem real_code : code.Real := trivial

/-- The rules lead from a state that a script can be in to another one. -/
theorem real_of_step_hide {α : Type} [BEq α] [TextUnit α] {s t : LexState} {a : α}
    {next : Option α} {pair : Bool} (hs : s.Real) (h : step s a next = .hide t pair) :
    t.Real := by
  cases s with
  | code =>
      simp only [step] at h
      split at h
      · cases h
      · split at h
        · cases h; trivial
        · split at h
          · rename_i q hq
            cases h
            exact List.mem_of_find?_eq_some hq
          · cases h
  | blockComment =>
      simp only [step] at h
      split at h <;> cases h <;> trivial
  | quoted q =>
      simp only [step] at h
      split at h
      · cases h; exact hs
      · split at h
        · split at h
          · cases h; exact hs
          · cases h; trivial
        · cases h; exact hs

/-- The state at the end of a text that more text may follow, together with
    whether the text ends inside a pair. There is none if a line comment has
    begun, since it takes along whatever follows. -/
def reach (s : LexState) (skip : Bool) : List Char → Option (LexState × Bool)
  | [] => some (s, skip)
  | a :: rest =>
    if skip then reach s false rest
    else
      match step s a rest.head? with
      | .comment => none
      | .code => reach s false rest
      | .hide next pair => reach next pair rest

theorem reach_skip (s : LexState) (a : Char) (rest : List Char) :
    reach s true (a :: rest) = reach s false rest := by
  rw [reach, if_pos rfl]

theorem walk_skip {α : Type} [BEq α] [TextUnit α] (s : LexState) (a : α) (rest : List α) :
    walk s true (a :: rest) = (none :: (walk s false rest).1, (walk s false rest).2) := by
  rw [walk, if_pos rfl]

/-- What `walk` and `reach` make of a unit that does not belong to a pair
    already read. -/
theorem walk_cons {α : Type} [BEq α] [TextUnit α] (s : LexState) (a : α) (rest : List α) :
    walk s false (a :: rest) =
      match step s a rest.head? with
      | .comment => (none :: rest.map fun _ => none, s)
      | .code => (some a :: (walk s false rest).1, (walk s false rest).2)
      | .hide next pair => (none :: (walk next pair rest).1, (walk next pair rest).2) := by
  cases hstep : step s a rest.head? <;> simp [walk, hstep]

theorem reach_cons (s : LexState) (a : Char) (rest : List Char) :
    reach s false (a :: rest) =
      match step s a rest.head? with
      | .comment => none
      | .code => reach s false rest
      | .hide next pair => reach next pair rest := by
  rw [reach, if_neg Bool.false_ne_true]

/-- A place where a text can be cut: after a plain character, or before
    one. -/
def CutAt (a b : List Char) : Prop :=
  a.getLast?.all plain = true ∨ b.head?.all plain = true

theorem CutAt.tail {c : Char} {rest b : List Char} (h : CutAt (c :: rest) b) : CutAt rest b := by
  rcases h with h | h
  · cases rest with
    | nil => exact Or.inl rfl
    | cons d more => exact Or.inl (by rwa [List.getLast?_cons_cons] at h)
  · exact Or.inr h

theorem CutAt.of_append_left {a x b : List Char} (h : CutAt (a ++ x) b) : CutAt x b := by
  induction a with
  | nil => exact h
  | cons c rest ih => exact ih h.tail

theorem CutAt.of_append_right {a x b : List Char} (h : CutAt a (x ++ b)) : CutAt a x := by
  rcases h with ha | hx
  · exact Or.inl ha
  · cases x with
    | nil => exact Or.inr rfl
    | cons c rest => exact Or.inr hx

/-- Each character before a cut sees after it what it would see if the text
    ended there. -/
theorem step_append {s : LexState} (hs : s.Real) {c : Char} {rest b : List Char}
    (h : CutAt (c :: rest) b) : step s c (rest ++ b).head? = step s c rest.head? := by
  cases rest with
  | cons d more => rfl
  | nil =>
      rcases h with h | h
      · have hc : plain c = true := h
        rw [step_after_plain hs hc]
        rfl
      · rw [List.nil_append, step_before_plain hs c h]
        rfl

/-- What follows a cut is lexed from the state at the cut, or swallowed by a
    line comment. -/
theorem walk_append {s : LexState} (hs : s.Real) (skip : Bool) {a b : List Char}
    (h : CutAt a b) :
    walk s skip (a ++ b) =
      match reach s skip a with
      | none => ((walk s skip a).1 ++ b.map fun _ => none, code)
      | some (t, cut) => ((walk s skip a).1 ++ (walk t cut b).1, (walk t cut b).2) := by
  induction a generalizing s skip with
  | nil => rfl
  | cons c rest ih =>
      cases skip with
      | true =>
          rw [List.cons_append, walk_skip, walk_skip, reach_skip, ih hs false h.tail]
          cases reach s false rest <;> rfl
      | false =>
          rw [List.cons_append, walk_cons, walk_cons, reach_cons, step_append hs h]
          cases hstep : step s c rest.head? with
          | comment =>
              rw [code_of_step_comment hstep]
              simp only [List.map_append, List.cons_append]
          | code =>
              simp only []
              rw [ih hs false h.tail]
              cases reach s false rest <;> rfl
          | hide next pair =>
              simp only []
              rw [ih (real_of_step_hide hs hstep) pair h.tail]
              cases reach next pair rest <;> rfl

/-- The state at a cut, by way of an earlier cut. -/
theorem reach_append {s : LexState} (hs : s.Real) (skip : Bool) {a b : List Char}
    (h : CutAt a b) :
    reach s skip (a ++ b) = (reach s skip a).bind fun p => reach p.1 p.2 b := by
  induction a generalizing s skip with
  | nil => rfl
  | cons c rest ih =>
      cases skip with
      | true => rw [List.cons_append, reach_skip, reach_skip, ih hs false h.tail]
      | false =>
          rw [List.cons_append, reach_cons, reach_cons, step_append hs h]
          cases hstep : step s c rest.head? with
          | comment => rfl
          | code => exact ih hs false h.tail
          | hide next pair => exact ih (real_of_step_hide hs hstep) pair h.tail

/-- A text that leads from code to code, and not from inside a pair. -/
def Closed (text : List Char) : Prop :=
  reach code false text = some (code, false)

/-- What stands before a plain character that is read as code is closed. -/
theorem closed_of_visited {a b : List Char} {c x : Char} (hc : plain c = true)
    (h : (walk code false (a ++ c :: b)).1[a.length]? = some (some x)) : Closed a := by
  have hcut : CutAt a (c :: b) := Or.inr hc
  rw [walk_append real_code false hcut] at h
  have hlen := length_walk code false a
  unfold Closed
  rcases hreach : reach code false a with _ | ⟨t, cut⟩
  · rw [hreach] at h
    simp [hlen] at h
  · rw [hreach] at h
    rw [List.getElem?_append_right (by omega), hlen, Nat.sub_self] at h
    cases cut with
    | true => simp [walk_skip] at h
    | false =>
        by_cases ht : t = code
        · rw [ht]
        · rcases step_of_ne_code ht c b.head? with ⟨u, pair, hstep⟩
          simp [walk_cons, hstep] at h

/-- What follows a closed text is lexed as if it stood alone. -/
theorem walk_closed_append {a b : List Char} (ha : Closed a) (h : CutAt a b) :
    walk code false (a ++ b) =
      ((walk code false a).1 ++ (walk code false b).1, (walk code false b).2) := by
  rw [walk_append real_code false h, ha]

theorem Closed.append {a b : List Char} (ha : Closed a) (hb : Closed b) (h : CutAt a b) :
    Closed (a ++ b) := by
  unfold Closed at ha hb ⊢
  rw [reach_append real_code false h, ha]
  exact hb

theorem Closed.of_append {a x : List Char} (ha : Closed a) (h : Closed (a ++ x))
    (hcut : CutAt a x) : Closed x := by
  unfold Closed at ha h ⊢
  rwa [reach_append real_code false hcut, ha] at h

/-- The effect of a line with a closed front is that of its two parts
    together. -/
theorem advance_closed_append {a b : List Char} (ha : Closed a) (h : CutAt a b) :
    code.advance (a ++ b) =
      { last := (code.advance b).last
        terminated := (code.advance a).terminated || (code.advance b).terminated
        depth := wrap32 ((code.advance a).depth + (code.advance b).depth) } := by
  simp only [advance, walk_closed_append ha h, List.countP_append, Effect.mk.injEq, true_and]
  constructor
  · rw [← Bool.decide_or]
    congr 1
    apply propext
    omega
  · rw [wrap32_wrap32_add, wrap32_add_wrap32]
    congr 1
    omega

/-- The balance of a line is a number in 32 bits. -/
@[simp]
theorem wrap32_depth (state : LexState) (text : List Char) :
    wrap32 (state.advance text).depth = (state.advance text).depth :=
  wrap32_wrap32 _

/-- A text that has no effect: it is closed, and its code has no semicolon and
    as many opening as closing parentheses. -/
structure Silent (text : List Char) : Prop where
  closed : Closed text
  unterminated : (code.advance text).terminated = false
  balanced : (code.advance text).depth = 0

/-- A silent text at the front of a line has no effect on it. -/
theorem advance_silent_append {a b : List Char} (ha : Silent a) (h : CutAt a b) :
    code.advance (a ++ b) = code.advance b := by
  rw [advance_closed_append ha.closed h, ha.unterminated, ha.balanced, Bool.false_or, Int.zero_add,
    wrap32_depth]

/-- A plain text is closed, and code throughout. -/
theorem closed_of_plain {a : List Char} (h : ∀ c ∈ a, plain c = true) :
    Closed a ∧ (walk code false a).1 = a.map some := by
  induction a with
  | nil => exact ⟨rfl, rfl⟩
  | cons c rest ih =>
      rcases ih fun d hd => h d (List.mem_cons_of_mem c hd) with ⟨hclosed, hwalk⟩
      have hc := step_plain (h c List.mem_cons_self) rest.head?
      constructor
      · rw [Closed, reach_cons, hc]
        exact hclosed
      · rw [walk_cons, hc]
        simp only [hwalk, List.map_cons]

theorem cutAt_of_plain {a : List Char} (h : ∀ c ∈ a, plain c = true) (b : List Char) :
    CutAt a b := by
  refine Or.inl ?_
  cases hl : a.getLast? with
  | none => rfl
  | some c => exact h c (List.mem_of_getLast? hl)

/-- A plain text at the front of a line is code, and the rest of the line is
    lexed as if it stood alone. -/
theorem walk_plain_append {a : List Char} (h : ∀ c ∈ a, plain c = true) (b : List Char) :
    walk code false (a ++ b) = (a.map some ++ (walk code false b).1, (walk code false b).2) := by
  rw [walk_closed_append (closed_of_plain h).1 (cutAt_of_plain h b), (closed_of_plain h).2]

/-- What is read as code is the unit that stands there. -/
theorem getElem?_of_visited {α : Type} [BEq α] [TextUnit α] (s : LexState) (skip : Bool)
    (text : List α) {i : Nat} {c : α} (h : (walk s skip text).1[i]? = some (some c)) :
    text[i]? = some c := by
  induction text generalizing s skip i with
  | nil => simp [walk] at h
  | cons a rest ih =>
      cases skip with
      | true =>
          rw [walk_skip] at h
          cases i with
          | zero => simp at h
          | succ j => exact ih s false (by simpa using h)
      | false =>
          rw [walk_cons] at h
          cases hstep : step s a rest.head? with
          | comment =>
              rw [hstep] at h
              have hmem := List.mem_of_getElem? h
              simp at hmem
          | code =>
              rw [hstep] at h
              cases i with
              | zero => simpa using h
              | succ j => exact ih s false (by simpa using h)
          | hide next pair =>
              rw [hstep] at h
              cases i with
              | zero => simp at h
              | succ j => exact ih next pair (by simpa using h)

end LexState

open Text LexState

/-- A character that survives blanking is read as code. -/
theorem visited_of_codeOnly {text : List Char} {i : Nat} {c : Char}
    (h : (codeOnly text)[i]? = some c) (hc : c ≠ ' ') :
    (walk code false text).1[i]? = some (some c) := by
  rw [codeOnly, List.getElem?_map, Option.map_eq_some_iff] at h
  rcases h with ⟨seen, hseen, hget⟩
  cases seen with
  | none => exact absurd hget.symm hc
  | some d => rw [hseen, ← hget]; rfl

theorem codeOnly_closed_append {a b : List Char} (ha : Closed a) (h : CutAt a b) :
    codeOnly (a ++ b) = codeOnly a ++ codeOnly b := by
  rw [codeOnly, walk_closed_append ha h, List.map_append]
  rfl

theorem split_getElem? {text : List Char} {i : Nat} {c : Char} (h : text[i]? = some c) :
    ∃ a b, a.length = i ∧ text = a ++ c :: b := by
  rcases List.getElem?_eq_some_iff.mp h with ⟨hi, hc⟩
  refine ⟨text.take i, text.drop (i + 1), List.length_take_of_le (Nat.le_of_lt hi), ?_⟩
  rw [← hc, List.getElem_cons_drop, List.take_append_drop]

/-- A word character of the blanked text stands at the same place in the
    text, and what is before it is closed. -/
theorem closed_of_codeOnly {text : List Char} {i : Nat} {c : Char}
    (h : (codeOnly text)[i]? = some c) (hc : isWord c = true) :
    ∃ a b, a.length = i ∧ text = a ++ c :: b ∧ Closed a := by
  have hseen := visited_of_codeOnly h (by rintro rfl; exact absurd hc (by decide))
  rcases split_getElem? (getElem?_of_visited _ _ _ hseen) with ⟨a, b, rfl, rfl⟩
  exact ⟨a, b, rfl, rfl, closed_of_visited (plain_of_isWord hc) hseen⟩

/-- The place of a piece of blanked text in the text itself. -/
structure Piece (before tok after : List Char) : Prop where
  closed_before : Closed before
  closed : Closed (before ++ tok)
  cut_before : CutAt before (tok ++ after)
  cut : CutAt (before ++ tok) after

theorem Piece.codeOnly_eq {before tok after : List Char} (h : Piece before tok after) :
    codeOnly (before ++ (tok ++ after)) = codeOnly before ++ (codeOnly tok ++ codeOnly after) := by
  rw [← List.append_assoc, codeOnly_closed_append h.closed h.cut,
    codeOnly_closed_append h.closed_before h.cut_before.of_append_right, List.append_assoc]

/-- A piece of blanked text that begins and ends with a word character can be
    cut out of the text, whatever comments and literals it stretches over. -/
theorem exists_piece {text A T X : List Char} (h : codeOnly text = A ++ (T ++ X)) {c d : Char}
    {T₁ T₂ : List Char} (hT₁ : T = c :: T₁) (hc : isWord c = true) (hT₂ : T = T₂ ++ [d])
    (hd : isWord d = true) :
    ∃ before tok after, text = before ++ (tok ++ after) ∧ Piece before tok after ∧
      codeOnly before = A ∧ codeOnly tok = T ∧ codeOnly after = X := by
  have hcat : (codeOnly text)[A.length]? = some c := by rw [h, hT₁]; simp
  have hdat : (codeOnly text)[A.length + T₂.length]? = some d := by rw [h, hT₂]; simp
  rcases closed_of_codeOnly hcat hc with ⟨before, R, hbefore, hrest, hclosed⟩
  rcases closed_of_codeOnly hdat hd with ⟨upto, after, hupto, hrest', hclosed'⟩
  -- The last character of the piece does not stand before the first one.
  have hinner : ∃ inner, upto = before ++ inner ∧ c :: R = inner ++ d :: after := by
    rcases List.append_eq_append_iff.mp (hrest.symm.trans hrest') with ⟨inner, h1, h2⟩ | ⟨x, h1, h2⟩
    · exact ⟨inner, h1, h2⟩
    · have hx : x = [] := by
        have hlen := congrArg List.length h1
        rw [List.length_append] at hlen
        exact List.eq_nil_of_length_eq_zero (by omega)
      rw [hx] at h1 h2
      exact ⟨[], by rw [h1, List.append_nil, List.append_nil], h2.symm⟩
  rcases hinner with ⟨inner, rfl, htok⟩
  have hdp := plain_of_isWord hd
  have hpiece : Piece before (inner ++ [d]) after := by
    refine ⟨hclosed, ?_, Or.inr ?_, Or.inl (by simpa using hdp)⟩
    · rw [← List.append_assoc]
      exact hclosed'.append (closed_of_plain (by simpa using hdp)).1 (Or.inr hdp)
    · rw [List.append_assoc, List.singleton_append, ← htok]
      exact plain_of_isWord hc
  have htext : text = before ++ ((inner ++ [d]) ++ after) := by
    rw [hrest, htok, List.append_assoc, List.singleton_append]
  have hlen : (inner ++ [d]).length = T.length := by
    rw [hT₂, List.length_append, List.length_append]
    rw [List.length_append] at hupto
    omega
  have hparts := h
  rw [htext, hpiece.codeOnly_eq] at hparts
  have hA := List.append_inj hparts (by rw [length_codeOnly, hbefore])
  have hT := List.append_inj hA.2 (by rw [length_codeOnly, hlen])
  exact ⟨before, inner ++ [d], after, htext, hpiece, hA.1, hT.1, hT.2⟩

/-- Nothing is blanked in a plain text. -/
theorem codeOnly_of_plain {a : List Char} (h : ∀ c ∈ a, plain c = true) : codeOnly a = a := by
  rw [codeOnly, (closed_of_plain h).2, List.map_map]
  exact List.map_id a

/-- A text with nothing but blanks and words in its code has no semicolon and
    no parenthesis there. -/
theorem advance_of_codeOnly {text : List Char}
    (h : ∀ c ∈ codeOnly text, isBlank c = true ∨ isWord c = true) :
    (code.advance text).terminated = false ∧ (code.advance text).depth = 0 := by
  have hcount : ∀ c : Char, isBlank c = false → isWord c = false →
      (walk code false text).1.countP (fun u => u.any (· == c)) = 0 := by
    intro c hblank hword
    rw [List.countP_eq_zero]
    intro u hu hany
    rw [Option.any_eq_true] at hany
    rcases hany with ⟨d, rfl, hd⟩
    have hmem : d ∈ codeOnly text := List.mem_map.mpr ⟨some d, hu, rfl⟩
    rw [eq_of_beq hd] at hmem
    rcases h c hmem with hc | hc
    · rw [hblank] at hc
      cases hc
    · rw [hword] at hc
      cases hc
  constructor
  · simp only [advance, TextUnit.unit, hcount ';' (by decide) (by decide)]
    rfl
  · simp only [advance, TextUnit.unit, hcount '(' (by decide) (by decide),
      hcount ')' (by decide) (by decide)]
    rfl

/-- A closed text with nothing but blanks and words in its code is silent. -/
theorem silent_of_codeOnly {text : List Char} (hclosed : Closed text)
    (h : ∀ c ∈ codeOnly text, isBlank c = true ∨ isWord c = true) : Silent text :=
  ⟨hclosed, (advance_of_codeOnly h).1, (advance_of_codeOnly h).2⟩

/-- A text of blanks and word characters. -/
def Bland (text : List Char) : Prop :=
  ∀ c ∈ text, isBlank c = true ∨ isWord c = true

namespace Bland

variable {a : List Char}

theorem plain (h : Bland a) : ∀ c ∈ a, plain c = true := by
  intro c hc
  rcases h c hc with hc | hc
  · exact plain_of_isBlank hc
  · exact plain_of_isWord hc

theorem silent (h : Bland a) : Silent a := by
  refine silent_of_codeOnly (closed_of_plain h.plain).1 ?_
  rw [codeOnly_of_plain h.plain]
  exact h

theorem append {b : List Char} (ha : Bland a) (hb : Bland b) : Bland (a ++ b) := by
  intro c hc
  rcases List.mem_append.mp hc with hc | hc
  · exact ha c hc
  · exact hb c hc

end Bland

/-- Blanks and words at the front of a line have no effect on it. -/
theorem advance_bland_append {a : List Char} (h : Bland a) (b : List Char) :
    code.advance (a ++ b) = code.advance b :=
  advance_silent_append h.silent (cutAt_of_plain h.plain b)

end Rerun
