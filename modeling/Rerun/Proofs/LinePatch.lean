import Rerun.Proofs.Idempotence

/-!
# The Edits as a Line Patch

The edits that a pass reports are all that it has done, and all of it has been
done: the patched script has the lines of the script, each in its place and
with its terminator, the lines that an edit names read as the edit says, and
the others are the same as before. Whoever is shown the edits has seen every
difference.

Most of this is in the turns already. What is missing is that an edit never
reports a change where there is none. A line is changed only if the rules have
something to do there, and they have nothing to do on a line that they have
written; so a line that came out as it went in was left alone
(`treat_text_eq_iff`).

## Main definitions

* `Script.differing`: The number of lines in which two scripts differ.

## Theorems

* `Patch.treat_text_eq_iff`: A line is as it was exactly if no action was taken.
* `Patch.le_of_mem_edits`, `Patch.pairwise_run_edits`: The edits of a run are
  in the order of their lines.
* `Patch.length_run_edits`, `Script.length_edits`: There are as many edits as
  lines that differ.
* `Script.edit_of_line`: What an edit says of the line it names.
* `Script.kept_of_no_edit`: A line that no edit names is unchanged.
* `Script.isChanged_iff`: There are edits exactly if the text has changed.
* `Script.edits_exact`: The edits are an exact line patch.
-/

namespace Rerun

open Text LexState

/-- A line that was commented out has changed. -/
theorem commentOut_ne (content : List Char) : commentOut content ≠ content := by
  intro heq
  have hlength := congrArg List.length heq
  have hparts := congrArg List.length (indentOf_append_bodyOf content)
  rw [commentOut_eq] at hlength
  simp only [List.length_append, List.length_cons, List.length_nil] at hlength hparts
  omega

/-- The guard rules leave a line as it was exactly if they take no action. -/
theorem guardCreate_text_eq_iff {rules : Rules} {content : List Char} {follows : Bool}
    (h : Statement.kindOf (bodyOf content) = .createTable) :
    (guardCreate rules content follows).text = content ↔
      (guardCreate rules content follows).action = .keep := by
  rcases (Statement.kindOf_eq_createTable_iff _).mp h with ⟨head, rest, hhead⟩
  constructor
  · intro heq
    by_contra hact
    -- The line would be properly guarded, and then there is nothing to do.
    have hguarded := isGuarded_guardCreate hhead hact
    rw [heq] at hguarded
    rw [guardCreate_of_isGuarded rules follows hguarded] at hact
    exact hact rfl
  · intro hkeep
    exact congrArg Treated.text (guardCreate_of_keep hhead hkeep)

/-- Mending leaves a line as it was exactly if it takes no action. -/
theorem mendLeading_text_eq_iff (rules : Rules) (content : List Char) :
    (mendLeading rules content).text = content ↔ (mendLeading rules content).action = .keep := by
  cases h : Guard.leading? content with
  | none =>
      rw [mendLeading_of_none rules h]
      exact ⟨fun _ => rfl, fun _ => rfl⟩
  | some guard =>
      constructor
      · intro heq
        have hagain := mendLeading_mendLeading rules h
        rw [heq] at hagain
        rw [hagain]
        rfl
      · intro hkeep
        rcases mendLeading_cases rules h with ⟨-, hkept⟩ | ⟨-, -, hmended⟩
        · rw [hkept]
          rfl
        · rw [hmended] at hkeep
          cases hkeep

/-- The number of places at which two lists of lines differ. -/
def countDiffering (first second : List Line) : Nat :=
  (List.range (max first.length second.length)).countP fun k => first[k]? != second[k]?

theorem countDiffering_cons (line other : Line) (first second : List Line) :
    countDiffering (line :: first) (other :: second) =
      (if line = other then 0 else 1) + countDiffering first second := by
  simp only [countDiffering, List.length_cons, Nat.add_max_add_right, List.range_succ_eq_map,
    List.countP_cons, List.countP_map, Function.comp_def, List.getElem?_cons_zero,
    List.getElem?_cons_succ]
  rw [Nat.add_comm]
  by_cases h : line = other <;> simp [h]

/-- A mark before both lists makes no difference. -/
theorem countDiffering_withMark {first second : List Line} (mark : List Char)
    (h : first.length = second.length) :
    countDiffering (withMark mark first) (withMark mark second) =
      countDiffering first second := by
  cases first with
  | nil => rw [List.length_eq_zero_iff.mp h.symm]; rfl
  | cons line first =>
      cases second with
      | nil => cases h
      | cons other second =>
          rw [withMark, withMark, countDiffering_cons, countDiffering_cons]
          cases line
          cases other
          simp

namespace Patch

/-- A line is as it was exactly if no action was taken on it. -/
theorem treat_text_eq_iff (rules : Rules) (state : State) (content : List Char)
    (next : Option (List Char)) :
    (treat rules state content next).treated.text = content ↔
      (treat rules state content next).treated.action = .keep := by
  rcases treat_cases rules state content next with ⟨-, -, heq⟩ | ⟨-, -, table, -, heq⟩ |
    ⟨-, -, hkind, heq⟩ | ⟨table, -, heq⟩
  · rw [heq]
    exact ⟨fun _ => rfl, fun _ => rfl⟩
  · rw [heq]
    exact ⟨fun hsame => absurd hsame (commentOut_ne content), fun hkeep => by cases hkeep⟩
  · rw [heq]
    exact guardCreate_text_eq_iff hkind
  · rw [heq]
    exact mendLeading_text_eq_iff rules content

/-- No edit of a run names a line before the first one. -/
theorem le_of_mem_edits {rules : Rules} {state : State} {number : Nat} {lines : List Line}
    {edit : Edit} (h : edit ∈ (run rules state number lines).edits) : number ≤ edit.line := by
  rcases (mem_run_edits_iff rules state lines number edit).mp h with ⟨k, line, -, hedit⟩
  rcases (Turn.edit?_eq_some_iff _ _ _ _).mp hedit with ⟨-, rfl⟩
  exact Nat.le_add_right number k

/-- The edits of a run are in the order of their lines, and no line is named
    twice. -/
theorem pairwise_run_edits (rules : Rules) (state : State) (number : Nat) (lines : List Line) :
    (run rules state number lines).edits.Pairwise fun a b => a.line < b.line := by
  induction lines generalizing state number with
  | nil => exact List.Pairwise.nil
  | cons first rest ih =>
      simp only [run]
      refine List.pairwise_append.mpr ⟨?_, ih _ (number + 1), ?_⟩
      · -- A turn makes one edit at most.
        cases (treat rules state first.content (rest.head?.map Line.content)).edit? number
            first.content with
        | none => exact List.Pairwise.nil
        | some edit => exact List.pairwise_singleton _ edit
      · intro edit hedit later hlater
        rcases (Turn.edit?_eq_some_iff _ _ _ _).mp (Option.mem_toList.mp hedit) with ⟨-, rfl⟩
        exact le_of_mem_edits hlater

/-- A run makes as many edits as there are lines that it changes. -/
theorem length_run_edits (rules : Rules) (state : State) (number : Nat)
    (lines : List Line) :
    (run rules state number lines).edits.length =
      countDiffering lines (run rules state number lines).lines := by
  induction lines generalizing state number with
  | nil => rfl
  | cons line rest ih =>
      have hkeep := treat_text_eq_iff rules state line.content (rest.head?.map Line.content)
      simp only [run, List.length_append, ih, countDiffering_cons]
      generalize treat rules state line.content (rest.head?.map Line.content) = turn at hkeep ⊢
      congr 1
      -- A line without an edit is the same, and one with an edit is not.
      by_cases hact : turn.treated.action = .keep
      · have hsame : line = ⟨turn.treated.text, line.ending⟩ :=
          congrArg (Line.mk · line.ending) (hkeep.mpr hact).symm
        rw [Turn.edit?, if_pos hact, if_pos hsame]
        rfl
      · have hdiffers : line ≠ ⟨turn.treated.text, line.ending⟩ :=
          fun heq => hact (hkeep.mp (congrArg Line.content heq).symm)
        rw [Turn.edit?, if_neg hact, if_neg hdiffers]
        rfl

end Patch

/-- Edits that each report an action are counted by the three actions. -/
theorem count_actions (edits : List Edit) (h : ∀ edit ∈ edits, edit.action ≠ .keep) :
    edits.countP (fun edit => edit.action == .commentOut) +
        edits.countP (fun edit => edit.action == .insertGuard) +
        edits.countP (fun edit => edit.action == .fixTypo) = edits.length := by
  induction edits with
  | nil => rfl
  | cons edit rest ih =>
      have hrest := ih fun other hother => h other (List.mem_cons_of_mem edit hother)
      have hact := h edit List.mem_cons_self
      simp only [List.countP_cons, List.length_cons]
      cases haction : edit.action with
      | keep => exact absurd haction hact
      | commentOut => simp; omega
      | insertGuard => simp; omega
      | fixTypo => simp; omega

namespace Script

variable (rules : Rules) (script : Script)

theorem length_lines_patched :
    (script.patched rules).lines.length = script.lines.length := by
  rw [← length_body, ← length_body, body_patched]
  exact (Patch.forall₂_run rules .start script.body 1).length_eq.symm

/-- Each line of the patched script has the terminator it had before. -/
theorem map_ending_patched :
    (script.patched rules).lines.map Line.ending = script.lines.map Line.ending := by
  have hmark : ∀ (mark : List Char) (lines : List Line),
      (withMark mark lines).map Line.ending = lines.map Line.ending := by
    intro mark lines
    cases lines <;> rfl
  rw [lines_eq_withMark, lines_eq_withMark, hmark, hmark]
  refine List.ext_getElem? fun k => ?_
  rw [List.getElem?_map, List.getElem?_map, getElem?_body_patched, Option.map_map]
  rfl

variable {script} {k : Nat} {before after : Line}

/-- An edit tells what its line was, what it has become, and that the two
    differ. -/
theorem edit_of_line (hbefore : script.body[k]? = some before)
    (hafter : (script.patched rules).body[k]? = some after) {edit : Edit}
    (hedit : edit ∈ (script.patch rules).edits) (hline : edit.line = k + 1) :
    edit.before = before.content ∧ edit.after = after.content ∧ edit.before ≠ edit.after ∧
      edit.action ≠ .keep := by
  rcases (mem_edits_iff rules script edit).mp hedit with ⟨j, line, hj, hact, rfl⟩
  obtain rfl : j = k := Nat.succ.inj hline
  rw [hbefore] at hj
  cases hj
  rw [getElem?_body_patched, hbefore, Option.map_some, Option.some.injEq] at hafter
  subst hafter
  exact ⟨rfl, rfl, fun hsame => hact ((Patch.treat_text_eq_iff ..).mp hsame.symm), hact⟩

/-- A line that no edit names is as it was. -/
theorem kept_of_no_edit (hbefore : script.body[k]? = some before)
    (hafter : (script.patched rules).body[k]? = some after)
    (hnone : ∀ edit ∈ (script.patch rules).edits, edit.line ≠ k + 1) :
    after.content = before.content := by
  rw [getElem?_body_patched, hbefore, Option.map_some, Option.some.injEq] at hafter
  subst hafter
  by_cases hkeep : (script.turn rules k before.content).treated.action = .keep
  · exact (Patch.treat_text_eq_iff ..).mpr hkeep
  · have hedit := (mem_edits_iff rules script _).mpr ⟨k, before, hbefore, hkeep, rfl⟩
    exact absurd rfl (hnone _ hedit)

variable (script)

/-- There are edits exactly if the text has changed. -/
theorem isChanged_iff :
    (script.patch rules).isChanged = true ↔ (script.patch rules).text ≠ script.text := by
  rw [Outcome.isChanged, Bool.not_eq_true', List.isEmpty_eq_false_iff]
  constructor
  · intro hedits htext
    rcases List.exists_mem_of_ne_nil _ hedits with ⟨edit, hedit⟩
    rcases (mem_edits_iff rules script edit).mp hedit with ⟨k, line, hline, hact, -⟩
    -- With the same text the line would be the one that was read.
    have hafter := getElem?_body_patched rules script k
    rw [show script.patched rules = script from congrArg Script.mk htext, hline,
      Option.map_some, Option.some.injEq] at hafter
    exact hact ((Patch.treat_text_eq_iff ..).mp (congrArg Line.content hafter).symm)
  · intro htext hnil
    refine htext ?_
    have hbody : (script.patched rules).body = script.body := by
      refine List.ext_getElem? fun k => ?_
      cases hline : script.body[k]? with
      | none => rw [getElem?_body_patched, hline]; rfl
      | some line =>
          have hafter := getElem?_body_patched rules script k
          rw [hline, Option.map_some] at hafter
          have hkept := kept_of_no_edit rules hline hafter (by simp [hnil])
          rw [hafter]
          exact congrArg (fun content => some (Line.mk content line.ending)) hkept
    change (script.patched rules).text = script.text
    rw [text_eq_mark_append (script.patched rules), text_eq_mark_append script, hbody,
      mark_patched]

/-- The number of lines in which two scripts differ: a line that only one of
    them has counts, and so does another terminator. -/
def differing (first second : Script) : Nat :=
  countDiffering first.lines second.lines

/-- There are as many edits as lines that differ from the patched script. -/
theorem length_edits (rules : Rules) (script : Script) :
    (script.patch rules).edits.length = script.differing (script.patched rules) := by
  have hlength := (Patch.forall₂_run rules .start script.body 1).length_eq
  rw [differing, lines_eq_withMark, lines_eq_withMark, mark_patched, body_patched,
    countDiffering_withMark _ hlength]
  exact Patch.length_run_edits rules .start 1 script.body

/-- The edits are an exact line patch. The patched script has as many lines as
    the script, with the same terminators and the same mark. The edits are in
    the order of their lines, each of which is one of the script's. A line that
    an edit names was what the edit says and has become what it says, and the
    two differ; any other line is the same. So there are edits exactly if the
    text has changed, and the three actions account for all of them. -/
theorem edits_exact (rules : Rules) (script : Script) :
    ((script.patch rules).lines = script.lines.length ∧
      (script.patched rules).lines.length = script.lines.length ∧
      (script.patched rules).lines.map Line.ending = script.lines.map Line.ending ∧
      (script.patched rules).mark = script.mark) ∧
    ((script.patch rules).edits.Pairwise (fun a b => a.line < b.line) ∧
      ∀ edit ∈ (script.patch rules).edits, 1 ≤ edit.line ∧ edit.line ≤ script.lines.length) ∧
    (∀ k before after, script.body[k]? = some before →
      (script.patched rules).body[k]? = some after →
      (∀ edit ∈ (script.patch rules).edits, edit.line = k + 1 →
        edit.before = before.content ∧ edit.after = after.content ∧ edit.before ≠ edit.after ∧
          edit.action ≠ .keep) ∧
      ((∀ edit ∈ (script.patch rules).edits, edit.line ≠ k + 1) →
        after.content = before.content)) ∧
    ((script.patch rules).isChanged = true ↔ (script.patch rules).text ≠ script.text) ∧
    (script.patch rules).count .commentOut + (script.patch rules).count .insertGuard +
      (script.patch rules).count .fixTypo = (script.patch rules).edits.length := by
  refine ⟨⟨rfl, length_lines_patched rules script, map_ending_patched rules script,
    mark_patched rules script⟩, ⟨?_, ?_⟩, ?_, isChanged_iff rules script, ?_⟩
  · exact Patch.pairwise_run_edits rules .start 1 script.body
  · intro edit hedit
    rcases (mem_edits_iff rules script edit).mp hedit with ⟨k, line, hline, -, rfl⟩
    have hlt := (List.getElem?_eq_some_iff.mp hline).1
    rw [length_body] at hlt
    exact ⟨Nat.le_add_left 1 k, hlt⟩
  · intro k before after hbefore hafter
    refine ⟨?_, kept_of_no_edit rules hbefore hafter⟩
    intro edit hedit hline
    exact edit_of_line rules hbefore hafter hedit hline
  · refine count_actions _ ?_
    intro edit hedit
    rcases (mem_edits_iff rules script edit).mp hedit with ⟨k, line, -, hact, rfl⟩
    exact hact

end Script

end Rerun
