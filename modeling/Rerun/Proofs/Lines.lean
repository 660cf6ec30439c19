import Mathlib.Data.List.Forall2
import Rerun.Script

/-!
# Lines and the Text They Make Up

Splitting a text into lines loses nothing, and this is the way back: which
lists of lines a text can be split into, and that joining such a list and
splitting the result gives the same list.

The way back is what a second pass over a patched script depends on. The
first pass works on lines and writes a text, and the second one splits that
text again. It sees the lines that were written only if no edit put a line
feed into a line, left a carriage return right before one, emptied the last
line, or put a byte order mark where there was none. `Replaces` says this of
one edit, and `mark_body_rejoin` draws the conclusion for a whole script.

## Main definitions

* `Line.WellEnded`: A line whose content cannot be confused with its end.
* `WellSplit`: Lines that a text can be split into.
* `Replaces`: A content that may stand in the place of another one.
* `Line.Replaced`: A line with a new content and the old terminator.
* `withMark`: Lines with a byte order mark put back before the first one.

## Theorems

* `wellSplit_splitLines`: Splitting gives well split lines.
* `splitLines_joinLines`: Well split lines are recovered from their text.
* `wellSplit_of_replaced`: Replacing contents keeps lines well split.
* `Script.lines_eq_withMark`, `Script.text_eq_mark_append`: A script is its
  mark and its body.
* `Script.lines_rejoin`, `Script.mark_body_rejoin`: What is read back after
  the lines of a script were replaced.
-/

namespace Rerun

namespace Line

/-- A line whose content cannot be confused with what ends it: there is no
    line feed in it, and no carriage return right before a bare one. -/
structure WellEnded (line : Line) : Prop where
  noFeed : '\n' ∉ line.content
  noReturn : line.ending = .lf → line.content.getLast? ≠ some '\r'

end Line

/-- Lines that a text can be split into. Only the last one may lack a
    terminator, and then it is not empty. -/
def WellSplit : List Line → Prop
  | [] => True
  | line :: rest =>
    line.WellEnded ∧ (line.ending = .missing → line.content ≠ [] ∧ rest = []) ∧ WellSplit rest

/-- A character that does not end a line belongs to the line that follows
    it. -/
theorem splitLines_cons (c : Char) (rest : List Char) (hc : c ≠ '\n')
    (hr : c = '\r' → rest.head? ≠ some '\n') :
    splitLines (c :: rest) =
      match splitLines rest with
      | [] => [⟨[c], .missing⟩]
      | line :: lines => ⟨c :: line.content, line.ending⟩ :: lines := by
  have hno : ∀ tail, c = '\r' → rest = '\n' :: tail → False := by
    intro tail hcr htail
    rw [htail] at hr
    exact hr hcr rfl
  exact splitLines.eq_4 c rest hc hno

theorem splitLines_append (content rest : List Char) (ending : Terminator)
    (hfeed : '\n' ∉ content) (hlf : ending = .lf → content.getLast? ≠ some '\r')
    (hend : ending ≠ .missing) :
    splitLines (content ++ (ending.chars ++ rest)) = ⟨content, ending⟩ :: splitLines rest := by
  induction content with
  | nil =>
      cases ending with
      | lf => rfl
      | crlf => rfl
      | missing => exact absurd rfl hend
  | cons c tail ih =>
      rw [List.mem_cons, not_or] at hfeed
      have htail : ending = .lf → tail.getLast? ≠ some '\r' := by
        intro he hl
        refine hlf he ?_
        rw [List.getLast?_cons, hl]
        rfl
      rw [List.cons_append, splitLines_cons, ih hfeed.2 htail]
      · exact fun h => hfeed.1 h.symm
      · -- The character after a carriage return is in the content, or it is
        -- the first one of a terminator that is not a bare line feed.
        intro hc hhead
        cases tail with
        | nil =>
            cases ending with
            | lf => exact hlf rfl (by rw [hc]; rfl)
            | crlf => simp [Terminator.chars] at hhead
            | missing => exact hend rfl
        | cons d more =>
            simp only [List.cons_append, List.head?_cons, Option.some.injEq] at hhead
            exact hfeed.2 (hhead ▸ List.mem_cons_self)

theorem splitLines_unended (content : List Char) (hfeed : '\n' ∉ content) (hne : content ≠ []) :
    splitLines content = [⟨content, .missing⟩] := by
  induction content with
  | nil => exact absurd rfl hne
  | cons c tail ih =>
      rw [List.mem_cons, not_or] at hfeed
      have hr : c = '\r' → tail.head? ≠ some '\n' := by
        intro _ hhead
        exact hfeed.2 (List.mem_of_mem_head? hhead)
      rw [splitLines_cons c tail (fun h => hfeed.1 h.symm) hr]
      cases tail with
      | nil => rfl
      | cons d more => rw [ih hfeed.2 (List.cons_ne_nil d more)]

/-- Well split lines are recovered from the text they make up. -/
theorem splitLines_joinLines (lines : List Line) (h : WellSplit lines) :
    splitLines (joinLines lines) = lines := by
  induction lines with
  | nil => rfl
  | cons line rest ih =>
      rcases h with ⟨hline, hmissing, hrest⟩
      have hjoin : joinLines (line :: rest)
          = line.content ++ (line.ending.chars ++ joinLines rest) := by
        simp only [joinLines, List.flatMap_cons, Line.chars, List.append_assoc]
      by_cases hend : line.ending = .missing
      · rcases hmissing hend with ⟨hne, rfl⟩
        have hchars : line.ending.chars ++ joinLines [] = [] := by rw [hend]; rfl
        rw [hjoin, hchars, List.append_nil, splitLines_unended _ hline.noFeed hne, ← hend]
      · rw [hjoin, splitLines_append _ _ _ hline.noFeed hline.noReturn hend, ih hrest]

/-- Splitting a text gives well split lines. -/
theorem wellSplit_splitLines (text : List Char) : WellSplit (splitLines text) := by
  fun_induction splitLines text with
  | case1 => trivial
  | case2 rest ih => exact ⟨⟨by simp, by simp⟩, by simp, ih⟩
  | case3 rest ih => exact ⟨⟨by simp, by simp⟩, by simp, ih⟩
  | case4 c rest hc hcr h ih =>
      refine ⟨⟨?_, by simp⟩, by simp, trivial⟩
      rw [List.mem_singleton]
      exact fun h => hc h.symm
  | case5 c rest hc hcr line lines h ih =>
      rw [h] at ih
      rcases ih with ⟨hline, hmissing, hlines⟩
      refine ⟨⟨?_, ?_⟩, ?_, hlines⟩
      · rw [List.mem_cons, not_or]
        exact ⟨fun h => hc h.symm, hline.noFeed⟩
      · intro hlf hlast
        rw [List.getLast?_cons] at hlast
        cases hl : line.content.getLast? with
        | some d =>
            rw [hl] at hlast
            exact hline.noReturn hlf (hl.trans hlast)
        | none =>
            -- The line is empty, so the character stands right before its
            -- line feed, and a carriage return would have joined it.
            rw [hl] at hlast
            have hempty : line.content = [] := List.getLast?_eq_none_iff.mp hl
            have hrest : rest = '\n' :: joinLines lines := by
              have hchars : line.chars = ['\n'] := by
                rw [Line.chars, hempty, show line.ending = .lf from hlf]
                rfl
              rw [← joinLines_splitLines rest, h]
              simp only [joinLines, List.flatMap_cons, hchars, List.cons_append, List.nil_append]
            exact hcr _ (Option.some.inj hlast) hrest
      · intro hm
        exact ⟨List.cons_ne_nil c line.content, (hmissing hm).2⟩

/-- A content that may stand in the place of another one without moving the
    edges of the line: what could be mistaken for a terminator or a byte
    order mark was there before. -/
structure Replaces (old new : List Char) : Prop where
  feed : '\n' ∈ new → '\n' ∈ old
  last : new.getLast? = some '\r' → old.getLast? = some '\r'
  empty : new = [] → old = []
  mark : new.head? = some byteOrderMark → old.head? = some byteOrderMark

theorem Replaces.refl (content : List Char) : Replaces content content :=
  ⟨id, id, id, id⟩

/-- A common beginning can be put before both contents. -/
theorem Replaces.append_left {old new : List Char} (h : Replaces old new) (lead : List Char) :
    Replaces (lead ++ old) (lead ++ new) := by
  cases lead with
  | nil => exact h
  | cons c tail =>
      refine ⟨?_, ?_, by simp, by simp⟩
      · simp only [List.mem_append]
        exact Or.imp_right h.feed
      · intro hl
        rw [List.getLast?_append] at hl ⊢
        cases hn : new.getLast? with
        | none =>
            rw [List.getLast?_eq_none_iff] at hn
            rw [h.empty hn]
            rw [hn] at hl
            exact hl
        | some d =>
            rw [hn, Option.some_or] at hl
            rw [h.last (hn.trans hl), Option.some_or]

/-- The line has a new content and keeps its terminator. -/
def Line.Replaced (old new : Line) : Prop :=
  Replaces old.content new.content ∧ new.ending = old.ending

theorem Line.Replaced.wellEnded {old new : Line} (h : old.Replaced new) (hold : old.WellEnded) :
    new.WellEnded := by
  rcases h with ⟨hrep, hend⟩
  refine ⟨fun hn => hold.noFeed (hrep.feed hn), ?_⟩
  intro he hl
  exact hold.noReturn (hend ▸ he) (hrep.last hl)

/-- Replacing contents line by line keeps lines well split. -/
theorem wellSplit_of_replaced {old new : List Line} (h : List.Forall₂ Line.Replaced old new)
    (hold : WellSplit old) : WellSplit new := by
  induction h with
  | nil => trivial
  | cons hline hrest ih =>
      rcases hold with ⟨hended, hmissing, hsplit⟩
      refine ⟨hline.wellEnded hended, ?_, ih hsplit⟩
      intro hm
      rcases hmissing (hline.2 ▸ hm) with ⟨hne, rfl⟩
      refine ⟨fun he => hne (hline.1.empty he), ?_⟩
      cases hrest
      rfl

/-- Lines with a byte order mark put back before the first one. -/
def withMark (mark : List Char) : List Line → List Line
  | [] => []
  | line :: rest => ⟨mark ++ line.content, line.ending⟩ :: rest

theorem joinLines_withMark (mark : List Char) (lines : List Line) (h : lines = [] → mark = []) :
    joinLines (withMark mark lines) = mark ++ joinLines lines := by
  cases lines with
  | nil => rw [h rfl]; rfl
  | cons line rest =>
      simp only [withMark, joinLines, List.flatMap_cons, Line.chars, List.append_assoc]

theorem forall₂_withMark (mark : List Char) {old new : List Line}
    (h : List.Forall₂ Line.Replaced old new) :
    List.Forall₂ Line.Replaced (withMark mark old) (withMark mark new) := by
  cases h with
  | nil => exact List.Forall₂.nil
  | cons hline hrest => exact List.Forall₂.cons ⟨hline.1.append_left mark, hline.2⟩ hrest

theorem splitMark_append (text : List Char) : (splitMark text).1 ++ (splitMark text).2 = text := by
  cases text with
  | nil => rfl
  | cons c rest =>
      by_cases hc : c = byteOrderMark
      · rw [splitMark, if_pos hc]; rfl
      · rw [splitMark, if_neg hc]; rfl

/-- Splitting off the mark again after the rest was replaced. -/
theorem splitMark_of_replaces (text new : List Char) (h : Replaces (splitMark text).2 new) :
    splitMark ((splitMark text).1 ++ new) = ((splitMark text).1, new) := by
  have hnew : new.head? ≠ some byteOrderMark → splitMark new = ([], new) := by
    intro hm
    cases new with
    | nil => rfl
    | cons d more =>
        rw [splitMark, if_neg]
        exact fun hd => hm (by rw [hd]; rfl)
  cases text with
  | nil => exact hnew fun hm => nomatch h.mark hm
  | cons c rest =>
      by_cases hc : c = byteOrderMark
      · rw [splitMark, if_pos hc]
        simp only [List.cons_append, List.nil_append, splitMark, if_pos hc]
      · rw [splitMark, if_neg hc] at h ⊢
        refine hnew fun hm => hc ?_
        exact Option.some.inj (h.mark hm)

namespace Script

/-- A script is its mark and its body. -/
theorem lines_eq_withMark (script : Script) : script.lines = withMark script.mark script.body := by
  unfold mark body
  cases script.lines with
  | nil => rfl
  | cons line rest => simp only [withMark, splitMark_append]

theorem mark_eq_nil {script : Script} (h : script.body = []) : script.mark = [] := by
  unfold body at h
  unfold mark
  cases hl : script.lines with
  | nil => rfl
  | cons line rest =>
      rw [hl] at h
      exact absurd h (List.cons_ne_nil _ _)

/-- The text of a script is its mark and its lines. -/
theorem text_eq_mark_append (script : Script) :
    script.text = script.mark ++ joinLines script.body := by
  rw [← joinLines_withMark _ _ mark_eq_nil, ← lines_eq_withMark]
  exact (joinLines_splitLines script.text).symm

theorem length_body (script : Script) : script.body.length = script.lines.length := by
  unfold body
  cases script.lines with
  | nil => rfl
  | cons line rest => rfl

variable {script : Script} {new : List Line}

/-- The lines read back after the body of a script was replaced line by
    line. -/
theorem lines_rejoin (h : List.Forall₂ Line.Replaced script.body new) :
    (Script.mk (script.mark ++ joinLines new)).lines = withMark script.mark new := by
  have hnil : new = [] → script.mark = [] := by
    intro hn
    rw [hn] at h
    exact mark_eq_nil (List.forall₂_nil_right_iff.mp h)
  have hsplit : WellSplit (withMark script.mark new) := by
    refine wellSplit_of_replaced (forall₂_withMark script.mark h) ?_
    rw [← lines_eq_withMark]
    exact wellSplit_splitLines script.text
  rw [← joinLines_withMark _ _ hnil]
  exact splitLines_joinLines _ hsplit

/-- Replacing the body of a script line by line keeps its mark and gives the
    new body: no line is split, joined or lost, and none is taken for a mark
    or loses one. -/
theorem mark_body_rejoin (h : List.Forall₂ Line.Replaced script.body new) :
    (Script.mk (script.mark ++ joinLines new)).mark = script.mark ∧
      (Script.mk (script.mark ++ joinLines new)).body = new := by
  have hlines := lines_rejoin h
  cases hl : script.lines with
  | nil =>
      have hbody : script.body = [] := by rw [body, hl]
      rw [hbody] at h
      rw [List.forall₂_nil_left_iff.mp h] at hlines ⊢
      rw [mark_eq_nil hbody]
      exact ⟨rfl, rfl⟩
  | cons line rest =>
      have hmark : script.mark = (splitMark line.content).1 := by rw [mark, hl]
      have hbody : script.body = ⟨(splitMark line.content).2, line.ending⟩ :: rest := by
        rw [body, hl]
      rw [hbody] at h
      cases h with
      | cons hfirst hrest =>
          have hsplit := splitMark_of_replaces line.content _ hfirst.1
          rw [mark, body, hlines, hmark]
          simp only [withMark, hsplit, and_self]

end Script

end Rerun
