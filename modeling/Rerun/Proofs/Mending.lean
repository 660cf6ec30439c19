import Rerun.Proofs.Turns

/-!
# What Mending Takes Out

A misspelled guard is mended by replacing a piece of its line by the proper
clause. The piece is found in blanked text, where a comment or a literal looks
like a gap between two words, and it is cut out of the line itself. Whatever
stands between the words goes with it.

The code of the piece is nothing but the three words (`exists_mended`). The
piece itself is nothing but the words exactly if no comment and no literal is
lost (`mend_lossless_iff`). One direction is plain: a piece without hidden
characters is its own code. For the other one it does not matter which piece is
said to have been replaced. A piece that is nothing but words holds no quote and
no comment marker, so the edited line has as many of them as the line had, and
then the piece that was really replaced has none either.

A guard that opens its line is looked for in the line itself, so nothing is ever
lost there.

## Main definitions

* `hiddenOf`: The characters of a text that stand in comments and literals.
* `Mended`: A line and the line it becomes when a misspelled guard is mended.

## Theorems

* `hiddenOf_closed_append`: The hidden characters of a text, part by part.
* `codeOnly_of_hiddenOf`: A text that hides nothing is its own code.
* `count_replaced`: What is nothing but words holds no special characters.
* `Mended.hiddenOf_before`, `Mended.hiddenOf_after`: What is lost.
* `exists_mended`: A line on which a typo was fixed.
* `Script.mend_lossless_iff`: When mending loses nothing.
* `Script.comment_lost`: A comment that mending takes out.
-/

namespace Rerun

open Text Keyword LexState

/-- The characters of a text that stand in comments and literals, with what
    opens and closes these. -/
def hiddenOf (text : List Char) : List Char :=
  (text.zip (walk code false text).1).filterMap fun (c, seen) =>
    if seen.isNone then some c else none

theorem hiddenOf_closed_append {a b : List Char} (ha : Closed a) (h : CutAt a b) :
    hiddenOf (a ++ b) = hiddenOf a ++ hiddenOf b := by
  simp only [hiddenOf, walk_closed_append ha h]
  rw [List.zip_append (length_walk code false a).symm, List.filterMap_append]

/-- Nothing is hidden in a plain text. -/
theorem hiddenOf_of_plain {a : List Char} (h : ∀ c ∈ a, plain c = true) : hiddenOf a = [] := by
  rw [hiddenOf, (closed_of_plain h).2, List.filterMap_eq_nil_iff]
  rintro ⟨c, seen⟩ hmem
  rcases List.mem_map.mp (List.of_mem_zip hmem).2 with ⟨d, -, rfl⟩
  rfl

/-- A text that hides nothing is its own code. -/
theorem codeOnly_of_hiddenOf {text : List Char} (h : hiddenOf text = []) :
    codeOnly text = text := by
  have hlength := length_walk code false text
  refine List.ext_getElem? fun i => ?_
  rw [codeOnly, List.getElem?_map]
  cases hseen : (walk code false text).1[i]? with
  | none =>
      rw [List.getElem?_eq_none_iff, hlength] at hseen
      rw [List.getElem?_eq_none hseen]
      rfl
  | some seen =>
      cases seen with
      | some c => exact (getElem?_of_visited _ _ _ hseen).symm
      | none =>
          -- A place that is not read as code has a hidden character.
          have hi : i < text.length := hlength ▸ (List.getElem?_eq_some_iff.mp hseen).1
          have hzip : (text.zip (walk code false text).1)[i]? = some (text[i], none) := by
            rw [List.getElem?_zip_eq_some]
            exact ⟨List.getElem?_eq_getElem hi, hseen⟩
          have hnone := List.filterMap_eq_nil_iff.mp h _ (List.mem_of_getElem? hzip)
          cases hnone

/-- A plain text may be put before a place where a text can be cut. -/
theorem LexState.CutAt.plain_append {a b front : List Char} (h : CutAt a b)
    (hfront : ∀ c ∈ front, plain c = true) : CutAt (front ++ a) b := by
  rcases h with ha | hb
  · left
    rw [List.getLast?_append]
    cases hlast : a.getLast? with
    | some c =>
        rw [hlast] at ha
        exact ha
    | none =>
        cases hl : front.getLast? with
        | none => rfl
        | some c => exact hfront c (List.mem_of_getLast? hl)
  · exact Or.inr hb

theorem count_of_plain {text : List Char} {c : Char} (hc : c ∈ special)
    (h : ∀ d ∈ text, plain d = true) : text.count c = 0 := by
  refine List.count_eq_zero.mpr fun hmem => ?_
  have hplain := h c hmem
  rw [plain, Bool.not_eq_true', List.contains_eq_mem, decide_eq_false_iff_not] at hplain
  exact hplain hc

/-- A piece that is nothing but words has no special character that could be
    lost with it. -/
theorem count_replaced {lead piece tail : List Char} {c : Char} (hc : c ∈ special)
    (h : Spells Spelling.typo.words piece) :
    (lead ++ (piece ++ tail)).count c = (lead ++ (Guard.clause ++ tail)).count c := by
  have hpiece := count_of_plain hc (h.bland Spelling.typo.isKeyword_words).plain
  simp only [List.count_append, hpiece, count_of_plain hc Guard.plain_clause]

/-- A line `before` and the line `after` it becomes: the piece is cut out of the
    line where its code goes on, its code is the misspelled clause, and the
    proper clause stands in its place. -/
structure Mended (before after lead piece tail : List Char) : Prop where
  before_eq : before = lead ++ (piece ++ tail)
  after_eq : after = lead ++ (Guard.clause ++ tail)
  place : Piece lead piece tail
  spells : Spells Spelling.typo.words (codeOnly piece)

namespace Mended

variable {before after lead piece tail : List Char}

/-- Blanks and words may be put before both lines. -/
theorem bland_append (h : Mended before after lead piece tail) {front : List Char}
    (hfront : Bland front) :
    Mended (front ++ before) (front ++ after) (front ++ lead) piece tail := by
  have hclosed := (closed_of_plain hfront.plain).1
  have hcut : ∀ {a b}, CutAt a b → CutAt (front ++ a) b := fun hab =>
    hab.plain_append hfront.plain
  refine ⟨by rw [h.before_eq, List.append_assoc], by rw [h.after_eq, List.append_assoc],
    ⟨?_, ?_, hcut h.place.cut_before, ?_⟩, h.spells⟩
  · exact hclosed.append h.place.closed_before (cutAt_of_plain hfront.plain lead)
  · rw [List.append_assoc]
    exact hclosed.append h.place.closed (cutAt_of_plain hfront.plain _)
  · rw [List.append_assoc]
    exact hcut h.place.cut

theorem hiddenOf_before (h : Mended before after lead piece tail) :
    hiddenOf before = hiddenOf lead ++ (hiddenOf piece ++ hiddenOf tail) := by
  rw [h.before_eq, ← List.append_assoc, hiddenOf_closed_append h.place.closed h.place.cut,
    hiddenOf_closed_append h.place.closed_before h.place.cut_before.of_append_right,
    List.append_assoc]

theorem hiddenOf_after (h : Mended before after lead piece tail) :
    hiddenOf after = hiddenOf lead ++ hiddenOf tail := by
  rw [h.after_eq, hiddenOf_closed_append h.place.closed_before (Or.inr rfl),
    hiddenOf_closed_append (closed_of_plain Guard.plain_clause).1
      (cutAt_of_plain Guard.plain_clause tail), hiddenOf_of_plain Guard.plain_clause,
    List.nil_append]

/-- Nothing hidden is lost exactly if the piece hides nothing. -/
theorem hiddenOf_eq_iff (h : Mended before after lead piece tail) :
    hiddenOf after = hiddenOf before ↔ hiddenOf piece = [] := by
  rw [h.hiddenOf_before, h.hiddenOf_after, List.append_right_inj]
  constructor
  · intro heq
    have hlength := congrArg List.length heq
    rw [List.length_append] at hlength
    exact List.eq_nil_of_length_eq_zero (by omega)
  · intro hnil
    rw [hnil, List.nil_append]

/-- Nothing hidden is lost exactly if the mended line can be got by replacing
    nothing but words. -/
theorem lossless_iff (h : Mended before after lead piece tail) :
    (∃ lead piece tail, before = lead ++ (piece ++ tail) ∧
      after = lead ++ (Guard.clause ++ tail) ∧ Spells Spelling.typo.words piece) ↔
    hiddenOf after = hiddenOf before := by
  rw [h.hiddenOf_eq_iff]
  constructor
  · rintro ⟨lead', piece', tail', hbefore, hafter, hspells⟩
    -- Neither line has a special character that the other one lacks, so there
    -- is none in the piece.
    refine hiddenOf_of_plain fun c hc => ?_
    rw [plain, Bool.not_eq_true', List.contains_eq_mem, decide_eq_false_iff_not]
    intro hspecial
    have hsame : before.count c = after.count c := by
      rw [hbefore, hafter]
      exact count_replaced hspecial hspells
    rw [h.before_eq, h.after_eq] at hsame
    simp only [List.count_append, count_of_plain hspecial Guard.plain_clause] at hsame
    have hpos := List.count_pos_iff.mpr hc
    omega
  · intro hnil
    refine ⟨lead, piece, tail, h.before_eq, h.after_eq, ?_⟩
    rw [← codeOnly_of_hiddenOf hnil]
    exact h.spells

end Mended

/-- A misspelled guard after the head of a `CREATE TABLE` is cut out where it
    stands in the blanked text. -/
theorem mended_guardCreate {rules : Rules} {content : List Char} {follows : Bool}
    (h : (guardCreate rules content follows).action = .fixTypo) :
    ∃ lead piece tail,
      Mended content (guardCreate rules content follows).text lead piece tail := by
  cases hhead : Statement.createHead? (bodyOf content) with
  | none =>
      simp only [guardCreate, hhead] at h
      cases h
  | some parts =>
      rcases parts with ⟨head, rest⟩
      rcases guardCreate_cases rules follows hhead with ⟨guard, -, -, heq⟩ |
        ⟨guard, hfind, htypo, -, heq⟩ | ⟨-, -, heq⟩ | ⟨-, -, -, heq⟩
      · rw [heq] at h
        cases h
      · rcases Guard.find?_split hfind with ⟨before, tok, after, rfl, hstands⟩
        have hspells := hstands.first.spells
        rw [htypo] at hspells
        have hmended : Mended (before ++ (tok ++ after)) (guard.mend (before ++ (tok ++ after)))
            before tok after := ⟨rfl, hstands.mend_eq, hstands.piece, hspells⟩
        have hfront : Bland (indentOf content ++ head) :=
          (bland_indentOf content).append (bland_head hhead)
        have hline := hmended.bland_append hfront
        have hcontent : indentOf content ++ head ++ (before ++ (tok ++ after)) = content := by
          rw [List.append_assoc]
          exact (content_eq hhead).symm
        rw [hcontent] at hline
        rw [heq]
        exact ⟨_, _, _, hline⟩
      · rw [heq] at h
        cases h
      · rw [heq] at h
        cases h

/-- A misspelled guard that opens a line is nothing but words. -/
theorem mended_mendLeading {rules : Rules} {content : List Char}
    (h : (mendLeading rules content).action = .fixTypo) :
    ∃ lead piece tail, Mended content (mendLeading rules content).text lead piece tail := by
  cases hguard : Guard.leading? content with
  | none =>
      rw [mendLeading_of_none rules hguard] at h
      cases h
  | some guard =>
      rcases mendLeading_cases rules hguard with ⟨-, heq⟩ | ⟨htypo, -, heq⟩
      · rw [heq] at h
        cases h
      · rcases Guard.mend_leading hguard with ⟨t, tail, hline, ht, -, hmend⟩
        rw [htypo] at ht
        have hplain := (ht.bland Spelling.typo.isKeyword_words).plain
        have hmended : Mended (t ++ tail) (Guard.clause ++ tail) [] t tail := by
          refine ⟨rfl, rfl, ⟨rfl, (closed_of_plain hplain).1, Or.inl rfl,
            cutAt_of_plain hplain tail⟩, ?_⟩
          rw [codeOnly_of_plain hplain]
          exact ht
        have hwhole := hmended.bland_append (bland_indentOf content)
        rw [← hline, ← hmend] at hwhole
        rw [heq]
        exact ⟨_, _, _, hwhole⟩

namespace Script

variable {rules : Rules} {script : Script} {edit : Edit}

/-- A line on which a typo was fixed has a misspelled guard, and the proper
    clause in its place. -/
theorem exists_mended (hedit : edit ∈ (script.patch rules).edits)
    (hact : edit.action = .fixTypo) :
    ∃ lead piece tail, Mended edit.before edit.after lead piece tail := by
  rcases (mem_edits_iff rules script edit).mp hedit with ⟨k, line, hline, -, rfl⟩
  simp only at hact ⊢
  rcases turn_cases rules hline with ⟨-, heq⟩ | ⟨-, table, -, heq⟩ | ⟨-, -, heq⟩ |
    ⟨-, table, guard, -, heq⟩
  · rw [heq] at hact
    cases hact
  · rw [heq] at hact
    cases hact
  · rw [heq] at hact ⊢
    exact mended_guardCreate hact
  · rw [heq] at hact ⊢
    exact mended_mendLeading hact

/-- Where a typo was fixed, a piece of the line was replaced by the proper
    clause, the code of the piece is the misspelled clause, and the comments and
    literals inside the piece are lost. The line can be got by replacing nothing
    but the words of the clause exactly if no comment and no literal is lost. -/
theorem mend_lossless_iff (hedit : edit ∈ (script.patch rules).edits)
    (hact : edit.action = .fixTypo) :
    (∃ lead piece tail, edit.before = lead ++ (piece ++ tail) ∧
      edit.after = lead ++ (Guard.clause ++ tail) ∧
      Spells Spelling.typo.words (codeOnly piece) ∧
      hiddenOf edit.before = hiddenOf lead ++ (hiddenOf piece ++ hiddenOf tail) ∧
      hiddenOf edit.after = hiddenOf lead ++ hiddenOf tail) ∧
    ((∃ lead piece tail, edit.before = lead ++ (piece ++ tail) ∧
      edit.after = lead ++ (Guard.clause ++ tail) ∧ Spells Spelling.typo.words piece) ↔
      hiddenOf edit.after = hiddenOf edit.before) := by
  rcases exists_mended hedit hact with ⟨lead, piece, tail, hmended⟩
  refine ⟨⟨lead, piece, tail, hmended.before_eq, hmended.after_eq, hmended.spells,
    hmended.hiddenOf_before, hmended.hiddenOf_after⟩, hmended.lossless_iff⟩

/-- A guard between two comments, and next to neither of them. -/
theorem mend_lossless_iff_between :
    ∃ lead piece tail,
      "CREATE TABLE /* a */ if\tNot  exist b -- c".toList = lead ++ (piece ++ tail) ∧
      "CREATE TABLE /* a */ IF NOT EXISTS b -- c".toList = lead ++ (Guard.clause ++ tail) ∧
      Spells Spelling.typo.words piece := by
  refine (@mend_lossless_iff {} ⟨"CREATE TABLE /* a */ if\tNot  exist b -- c\n".toList⟩
    ⟨1, .fixTypo, .createTable, none, _, _⟩ (by decide) rfl).2.mpr (by decide)

/-- A comment between the words of the guard is lost. -/
theorem comment_lost :
    ¬ ∀ (rules : Rules) (script : Script), ∀ edit ∈ (script.patch rules).edits,
      edit.action = .fixTypo → ∃ lead piece tail, edit.before = lead ++ (piece ++ tail) ∧
        edit.after = lead ++ (Guard.clause ++ tail) ∧ Spells Spelling.typo.words piece := by
  intro h
  rcases h {} ⟨"CREATE TABLE IF /* keep */ NOT EXIST t (id INT);\n".toList⟩
    ⟨1, .fixTypo, .createTable, none, "CREATE TABLE IF /* keep */ NOT EXIST t (id INT);".toList,
      "CREATE TABLE IF NOT EXISTS t (id INT);".toList⟩ (by decide) rfl with
    ⟨lead, piece, tail, hbefore, hafter, hspells⟩
  have hslash := @count_replaced lead piece tail '/' (by decide) hspells
  rw [← hbefore, ← hafter] at hslash
  exact absurd hslash (by decide)

end Script

end Rerun
