import Rerun.Proofs.AlikeScans

/-!
# Outlines

What the guard rules leave of the structure of a script. A guard is inserted
and mended inside lines that hold quotes, comments, semicolons and
parentheses, and the clause that is replaced may stretch over comments. Still
no edit of a guard changes what a line does to the lexical state, whether it
holds a semicolon, or its balance of parentheses (`advance_treat`). Nor does it
change anything else that a scan looks at: a line that received a guard still
opens a `CREATE TABLE`, and a line that a guard opens begins no statement
(`alike_treat`).

With drops left alone, a scan therefore finds the same statements after
patching as before, on the same lines. The `Outline` of a span is what stays the
same. The guard is what the rules change, the table may be read only once the
guard before it is proper, and the offsets move with the text.

## Main definitions

* `Outline`: The kind and the extent of a statement.
* `Span.outline`: The outline of a span.

## Theorems

* `Statement.opens_of_leading?`: A guard begins no statement.
* `Patch.alike_treat`: A scan treats a line alike before and after its turn.
* `Patch.allAlike_run`: A scan treats the lines of a run alike.
* `Script.outlines_patched`: Patching without commenting out keeps the
  outlines and the lexical states.
-/

namespace Rerun

open Text Keyword LexState

/-- The kind and the extent of a statement. -/
structure Outline where
  kind : Kind
  startLine : Nat
  endLine : Nat
  indent : List Char
  terminated : Bool
deriving DecidableEq, Repr

/-- The outline of a span. -/
def Span.outline (span : Span) : Outline :=
  ⟨span.kind, span.startLine, span.endLine, span.indent, span.terminated⟩

namespace Span

/-- Two spans of the same outline. -/
def Similar (span other : Span) : Prop :=
  other.outline = span.outline

theorem comparison_similar : Comparison Similar := by
  refine ⟨?_, ?_⟩
  · intro span other h
    exact congrArg Outline.kind h
  · intro span other h number stop stop' terminated
    simp only [Similar, outline, Outline.mk.injEq] at h ⊢
    exact ⟨h.1, h.2.1, rfl, h.2.2.2.1, rfl⟩

/-- Filling in a name and a guard does not change the outline. -/
theorem outline_fillSplit (lines : List Line) (span : Span) :
    (span.fillSplit lines).outline = span.outline := by
  rcases fillSplit_eq lines span with ⟨table, guard, heq⟩
  rw [heq]
  rfl

theorem map_outline_of_similar {spans others : List Span} (h : List.Forall₂ Similar spans others) :
    others.map outline = spans.map outline := by
  induction h with
  | nil => rfl
  | cons hspan _ ih => rw [List.map_cons, List.map_cons, hspan, ih]

end Span

namespace Statement

theorem Alike.refl (lex : LexState) (content : List Char) :
    Alike Span.Similar lex content content :=
  ⟨rfl, rfl, rfl, rfl, fun _ _ _ _ _ _ => rfl⟩

/-- A guard begins no statement: no opener has the same first two letters. -/
theorem opens_of_leading? {line : List Char} {guard : Guard}
    (h : Guard.leading? line = some guard) : opens (bodyOf line) = false := by
  have hblock : isBlockComment (bodyOf line) = false := by
    have helig := eligible_of_initial (initial_of_leading? h) (by decide) (by decide)
    simp only [eligible, Bool.and_eq_true, Bool.not_eq_true'] at helig
    exact helig.2
  have htwo : ((bodyOf line).map Char.toUpper).take 2 = "IF".toList := by
    rcases (Guard.leading?_eq_some_iff _ _).mp h with ⟨t, tail, hbody, ht, -⟩
    have hfirst : ∃ w ws, guard.spelling.words = "IF".toList :: w :: ws := by
      cases guard.spelling <;> exact ⟨_, _, rfl⟩
    rcases hfirst with ⟨w, ws, hwords⟩
    rw [hwords] at ht
    rcases spells_cons_iff.mp ht with ⟨x, gap, y, hx, -, -, -, rfl⟩
    rw [hbody, List.append_assoc, List.map_append, hx]
    rfl
  have hopeners : ∀ w ∈ openers, 2 ≤ w.length ∧ w.take 2 ≠ "IF".toList := by decide
  rw [opens, hblock, Bool.false_or, List.any_eq_false]
  intro w hw hword
  rw [Option.any_eq_true] at hword
  rcases hword with ⟨rest, hrest, -⟩
  rcases (word?_eq_some_iff _ _ _).mp hrest with ⟨v, hv, hbody⟩
  rcases hopeners w hw with ⟨hlength, hne⟩
  rw [hbody, List.map_append, hv, List.take_append_of_le_length hlength] at htwo
  exact hne htwo

/-- Two lines that start in code with a letter, and begin a statement both or
    neither, are alike if they have the same effect, kind and indentation. -/
theorem alike_of_initial {u : Char} {content other : List Char} (h : Initial u (bodyOf content))
    (h' : Initial u (bodyOf other)) (hdash : u ≠ '-') (hslash : u ≠ '/')
    (heffect : code.advance other = code.advance content)
    (hopens : opens (bodyOf other) = opens (bodyOf content))
    (hkind : kindOf (bodyOf other) = kindOf (bodyOf content))
    (hindent : indentOf other = indentOf content) :
    Alike Span.Similar .code content other := by
  have helig := eligible_of_initial h hdash hslash
  have helig' := eligible_of_initial h' hdash hslash
  refine ⟨heffect, helig'.trans helig.symm, ?_, hopens, ?_⟩
  · simp only [eligible, Bool.and_eq_true] at helig helig'
    change continuesDrop true _ = continuesDrop true _
    simp only [continuesDrop, helig.1, helig'.1, hopens]
  · intro number offset offset' size size' terminated
    simp only [Span.Similar, Span.outline, Span.opening, hkind, hindent]

end Statement

namespace Patch

/-- A scan treats a line that opens a `CREATE TABLE` alike before and after
    the guard rules. -/
theorem alike_guardCreate (rules : Rules) (follows : Bool) {content : List Char}
    (h : Statement.kindOf (bodyOf content) = .createTable) :
    Statement.Alike Span.Similar .code content (guardCreate rules content follows).text := by
  have hkind := kindOf_guardCreate rules follows h
  refine Statement.alike_of_initial (Statement.initial_of_createTable h)
    (Statement.initial_of_createTable hkind) (by decide) (by decide)
    (advance_guardCreate rules content follows) ?_ (hkind.trans h.symm)
    (indentOf_guardCreate rules content follows)
  rw [Statement.opens_of_createTable h, Statement.opens_of_createTable hkind]

/-- A scan treats a line that a guard opens alike before and after the guard is
    mended. -/
theorem alike_mendLeading (rules : Rules) {content : List Char} {guard : Guard}
    (h : Guard.leading? content = some guard) :
    Statement.Alike Span.Similar .code content (mendLeading rules content).text := by
  rcases leading?_mendLeading rules h with ⟨again, hagain, -⟩
  refine Statement.alike_of_initial (Statement.initial_of_leading? h)
    (Statement.initial_of_leading? hagain) (by decide) (by decide)
    (advance_mendLeading rules content) ?_ ?_ (indentOf_mendLeading rules content)
  · rw [Statement.opens_of_leading? h, Statement.opens_of_leading? hagain]
  · rw [Statement.kindOf_of_leading? h, Statement.kindOf_of_leading? hagain]

/-- With drops left alone, no line is commented out. -/
theorem not_dropped {rules : Rules} (hdrops : rules.commentDrops = false) {phase : Phase}
    (hphase : ∀ table, phase ≠ .dropping table) (content : List Char)
    (table : Option (List Char)) : ¬ Dropped rules phase content table := by
  rintro (⟨-, hrule, -⟩ | ⟨hdropping, -⟩)
  · rw [hdrops] at hrule
    cases hrule
  · exact hphase table hdropping

/-- With drops left alone, a scan treats a line alike before and after its
    turn. -/
theorem alike_treat {rules : Rules} (hdrops : rules.commentDrops = false) {state : State}
    (hphase : ∀ table, state.phase ≠ .dropping table) {content : List Char}
    (hfits : state.Fits (some content)) (next : Option (List Char)) :
    Statement.Alike Span.Similar state.lex content
      (treat rules state content next).treated.text := by
  rcases treat_cases rules state content next with ⟨-, -, heq⟩ | ⟨-, -, table, hdropped, -⟩ |
    ⟨-, hlex, hkind, heq⟩ | ⟨table, hguarding, heq⟩
  · rw [heq]
    exact Statement.Alike.refl state.lex content
  · exact absurd hdropped (not_dropped hdrops hphase content table)
  · rw [heq, hlex]
    exact alike_guardCreate rules _ hkind
  · rcases hfits.of_guarding hguarding with ⟨hlex, guard, hguard⟩
    rw [heq, hlex]
    exact alike_mendLeading rules hguard

theorem not_dropping_treat {rules : Rules} (hdrops : rules.commentDrops = false) {state : State}
    (hphase : ∀ table, state.phase ≠ .dropping table) (content : List Char)
    (next : Option (List Char)) (table : Option (List Char)) :
    (treat rules state content next).phase ≠ .dropping table := by
  intro hdropping
  rcases treat_cases rules state content next with ⟨-, -, heq⟩ | ⟨-, -, other, hdropped, -⟩ |
    ⟨-, -, -, heq⟩ | ⟨other, -, heq⟩
  · rw [heq] at hdropping
    cases hdropping
  · exact not_dropped hdrops hphase content other hdropped
  · rw [heq] at hdropping
    exact create_phase_ne_dropping rules content next table hdropping
  · rw [heq] at hdropping
    cases hdropping

/-- With drops left alone, a scan treats the lines of a run alike. -/
theorem allAlike_run {rules : Rules} (hdrops : rules.commentDrops = false) {state : State}
    (hphase : ∀ table, state.phase ≠ .dropping table) {lines : List Line}
    (hfits : state.Fits (lines.head?.map Line.content)) (number : Nat) :
    Statement.AllAlike Span.Similar state.lex lines (run rules state number lines).lines := by
  induction lines generalizing state number with
  | nil => exact .nil
  | cons line rest ih =>
      have hline := alike_treat hdrops hphase hfits (rest.head?.map Line.content)
      have hnext := ih (not_dropping_treat hdrops hphase line.content _)
        (fits_next rules state line.content (rest.head?.map Line.content)) (number + 1)
      refine .cons hline ?_
      -- The rest starts in the state that the line as written leads to.
      rw [← hline.effect]
      exact hnext

end Patch

namespace Script

/-- Patching with drops left alone keeps the outlines of the statements and
    the lexical states between the lines. -/
theorem outlines_patched {rules : Rules} (hdrops : rules.commentDrops = false) (script : Script) :
    (script.patched rules).spans.map Span.outline = script.spans.map Span.outline ∧
      (∀ k, (script.patched rules).stateBefore k = script.stateBefore k) ∧
      (script.patch rules).last = script.stateBefore script.body.length := by
  have halike : Statement.AllAlike Span.Similar .code script.body (script.patched rules).body := by
    have hfree : ∀ table, Patch.State.start.phase ≠ .dropping table :=
      fun _ => Patch.Phase.noConfusion
    rw [body_patched]
    exact Patch.allAlike_run hdrops hfree trivial 1
  have hstates : ∀ k, (script.patched rules).stateBefore k = script.stateBefore k :=
    halike.afterLines
  refine ⟨?_, hstates, ?_⟩
  · have hstart : Cursor.start.Alike Span.Similar Cursor.start := ⟨rfl, rfl, .none⟩
    have hscan := hstart.scan Span.comparison_similar halike (Utf8.size script.mark)
      (Utf8.size (script.patched rules).mark)
    simp only [spans, List.map_map, Function.comp_def, Span.outline_fillSplit]
    exact Span.map_outline_of_similar hscan
  · rw [last_patch, hstates]

/-- A guard that is mended around a comment, one that is inserted, and a drop
    that never ends. -/
theorem outlines_patched_mended :
    ((Script.mk "CREATE TABLE if /* ; */ not exist a (\n);\nCREATE TABLE b;\nDROP TABLE c".toList
        ).patched { commentDrops := false }).spans.map Span.outline =
      [⟨.createTable, 1, 2, [], true⟩, ⟨.createTable, 3, 3, [], true⟩,
        ⟨.dropTable, 4, 4, [], false⟩] := by
  refine (outlines_patched rfl _).1.trans ?_
  decide

end Script

end Rerun
