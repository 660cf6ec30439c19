import Rerun.Proofs.DropSpans

/-!
# The Lines of a Drop

Exactly which lines are commented out, and what is recorded of them.

Whether a line is commented out depends on the line itself, on the state in
which it starts as written, and on one bit of the past: that the line before
was commented out and has no semicolon. The pass keeps this bit as its phase,
and other turns come in between, so it has to be shown that no other turn sets
it and that no turn forgets it. `commentOut_succ_iff` is the step from a line
to the next.

The table that is recorded for a line was read on an earlier one, the line
that opened the statement, and was handed on from turn to turn. It can be found
again without the pass. A line that carries on a `DROP TABLE` begins no
statement, so the opening line is the nearest one at or above the line that
opens a `DROP TABLE` (`exists_nearestDrop`).

## Main definitions

* `Script.CommentedOut`: A line that an edit comments out.
* `Script.NearestDrop`: The nearest line at or above a line that opens a
  `DROP TABLE`.

## Theorems

* `Script.table_of_dropping`: The table that is handed on is that of the turn
  before.
* `Script.commentOut_zero_iff`, `Script.commentOut_succ_iff`: When the first
  line and when a later line is commented out.
* `Script.dropped_of_commentOut`: What a line that was commented out does.
* `Script.exists_nearestDrop`: Where the table of a line that was commented out
  comes from.
* `Script.commentedOut_lines`: Which lines are commented out, and what is
  recorded of them.
-/

namespace Rerun

open Text LexState

/-- A line that carries on a `DROP TABLE` opens none itself. -/
theorem Statement.not_dropTable_of_continuesDrop {body : List Char}
    (h : continuesDrop true body = true) : kindOf body ≠ .dropTable := by
  intro hkind
  simp only [continuesDrop, opens_of_dropTable hkind, Bool.not_true, Bool.and_false,
    Bool.false_eq_true] at h

namespace Script

/-- An edit comments out the line with the given index. -/
def CommentedOut (rules : Rules) (script : Script) (k : Nat) : Prop :=
  ∃ edit ∈ (script.patch rules).edits, edit.line = k + 1 ∧ edit.action = .commentOut

instance (rules : Rules) (script : Script) (k : Nat) : Decidable (script.CommentedOut rules k) :=
  inferInstanceAs (Decidable (∃ edit ∈ _, _))

/-- The nearest line at or above the line with index `k` that opens a
    `DROP TABLE`. -/
structure NearestDrop (script : Script) (k m : Nat) (opener : Line) : Prop where
  found : script.body[m]? = some opener
  above : m ≤ k
  opens : Statement.kindOf (bodyOf opener.content) = .dropTable
  nearest : ∀ j line, m < j → j ≤ k → script.body[j]? = some line →
    Statement.kindOf (bodyOf line.content) ≠ .dropTable

variable {rules : Rules} {script : Script} {k : Nat} {line : Line}

theorem nearestDrop_self (h : script.body[k]? = some line)
    (hkind : Statement.kindOf (bodyOf line.content) = .dropTable) :
    script.NearestDrop k k line := by
  refine ⟨h, Nat.le_refl k, hkind, ?_⟩
  intro j other hlt hle
  omega

/-- A line that carries on a `DROP TABLE` does not come between its opener and
    the next line. -/
theorem NearestDrop.carry {m : Nat} {opener : Line} (h : script.NearestDrop k m opener)
    (hline : script.body[k + 1]? = some line)
    (hgoes : Statement.continuesDrop true (bodyOf line.content) = true) :
    script.NearestDrop (k + 1) m opener := by
  refine ⟨h.found, Nat.le_succ_of_le h.above, h.opens, ?_⟩
  intro j other hlt hle hother
  by_cases hj : j = k + 1
  · rw [hj, hline] at hother
    cases hother
    exact Statement.not_dropTable_of_continuesDrop hgoes
  · exact h.nearest j other hlt (by omega) hother

/-- While a `DROP TABLE` is being commented out, the table that is handed on is
    that of the line before, which was commented out. -/
theorem table_of_dropping (h : script.body[k]? = some line) {table : Option (List Char)}
    (hphase : (script.passState rules (k + 1)).phase = .dropping table) :
    (script.turn rules k line.content).treated.action = .commentOut ∧
      (script.turn rules k line.content).table = table := by
  refine ⟨((dropping_succ_iff h).mp ⟨table, hphase⟩).1, ?_⟩
  rw [passState_succ rules h] at hphase
  change (script.turn rules k line.content).phase = .dropping table at hphase
  rcases turn_cases rules h with ⟨-, heq⟩ | ⟨-, other, -, heq⟩ | ⟨-, -, heq⟩ |
    ⟨-, other, guard, -, heq⟩
  · rw [heq] at hphase
    cases hphase
  · rw [heq] at hphase ⊢
    change (if _ then Patch.Phase.free else .dropping other) = _ at hphase
    split at hphase
    · cases hphase
    · exact Patch.Phase.dropping.inj hphase
  · rw [heq] at hphase
    exact absurd hphase (Patch.create_phase_ne_dropping rules line.content _ table)
  · rw [heq] at hphase
    cases hphase

/-- The first line is commented out exactly if it opens a `DROP TABLE`. -/
theorem commentOut_zero_iff (hrule : rules.commentDrops = true)
    (h : script.body[0]? = some line) :
    (script.turn rules 0 line.content).treated.action = .commentOut ↔
      Statement.kindOf (bodyOf line.content) = .dropTable := by
  rw [commentOut_iff hrule h, passState_zero]
  constructor
  · rintro ⟨-, hkind | ⟨⟨table, hphase⟩, -⟩⟩
    · exact hkind
    · cases hphase
  · intro hkind
    exact ⟨rfl, Or.inl hkind⟩

/-- A later line is commented out exactly if it starts in code as written and
    opens a `DROP TABLE`, or carries on the one on the line before. -/
theorem commentOut_succ_iff {prev : Line} (hrule : rules.commentDrops = true)
    (hprev : script.body[k]? = some prev) (h : script.body[k + 1]? = some line) :
    (script.turn rules (k + 1) line.content).treated.action = .commentOut ↔
      (script.patched rules).stateBefore (k + 1) = .code ∧
          Statement.kindOf (bodyOf line.content) = .dropTable ∨
        (script.turn rules k prev.content).treated.action = .commentOut ∧
          (code.advance prev.content).terminated = false ∧
          Statement.continuesDrop true (bodyOf line.content) = true := by
  rw [commentOut_iff hrule h, stateBefore_patched]
  constructor
  · rintro ⟨hlex, hkind | ⟨hphase, hgoes⟩⟩
    · exact Or.inl ⟨hlex, hkind⟩
    · rcases (dropping_succ_iff hprev).mp hphase with ⟨hout, hopen⟩
      exact Or.inr ⟨hout, hopen, hgoes⟩
  · rintro (⟨hlex, hkind⟩ | ⟨hout, hopen, hgoes⟩)
    · exact ⟨hlex, Or.inl hkind⟩
    · have hphase := (dropping_succ_iff hprev).mpr ⟨hout, hopen⟩
      refine ⟨?_, Or.inr ⟨hphase, hgoes⟩⟩
      -- What was written of the line before is a comment, and ends in code.
      rcases hphase with ⟨table, hphase⟩
      have hfits := fits_passState rules h
      unfold Patch.State.Fits at hfits
      rwa [hphase] at hfits

/-- A line that was commented out opens a `DROP TABLE`, or carries on the one
    whose table was handed on to it. -/
theorem dropped_of_commentOut (h : script.body[k]? = some line)
    (hout : (script.turn rules k line.content).treated.action = .commentOut) :
    ∃ table, Patch.Dropped rules (script.passState rules k).phase line.content table ∧
      script.turn rules k line.content = Patch.drop table line.content := by
  rcases turn_cases rules h with ⟨-, heq⟩ | ⟨-, table, hdropped, heq⟩ | ⟨-, -, heq⟩ |
    ⟨-, table, guard, -, heq⟩
  · rw [heq] at hout
    cases hout
  · exact ⟨table, hdropped, heq⟩
  · rw [heq] at hout
    exact absurd hout (guardCreate_ne_commentOut rules line.content _)
  · rw [heq] at hout
    exact absurd hout (mendLeading_ne_commentOut rules line.content)

/-- The table of a line that was commented out is the one on the nearest line
    at or above it that opens a `DROP TABLE`. -/
theorem exists_nearestDrop (h : script.body[k]? = some line)
    (hout : (script.turn rules k line.content).treated.action = .commentOut) :
    ∃ m opener, script.NearestDrop k m opener ∧
      (script.turn rules k line.content).table =
        Kind.dropTable.tableName? (bodyOf opener.content) := by
  induction k generalizing line with
  | zero =>
      rcases dropped_of_commentOut h hout with ⟨table, ⟨hkind, -, htable⟩ | ⟨hphase, -⟩, heq⟩
      · rw [heq]
        exact ⟨0, line, nearestDrop_self h hkind, htable⟩
      · rw [passState_zero] at hphase
        cases hphase
  | succ k ih =>
      rcases dropped_of_commentOut h hout with ⟨table, ⟨hkind, -, htable⟩ | ⟨hphase, hgoes⟩, heq⟩
      · rw [heq]
        exact ⟨k + 1, line, nearestDrop_self h hkind, htable⟩
      · -- The line before knows the opener, and the line itself is none.
        have hlt : k < script.body.length :=
          Nat.lt_of_succ_lt (List.getElem?_eq_some_iff.mp h).1
        have hprev := List.getElem?_eq_getElem hlt
        rcases table_of_dropping hprev hphase with ⟨hbefore, hsame⟩
        rcases ih hprev hbefore with ⟨m, opener, hnearest, hopener⟩
        refine ⟨m, opener, hnearest.carry h hgoes, ?_⟩
        rw [heq]
        exact hsame.symm.trans hopener

/-- A line is commented out exactly if it starts in code as written and opens a
    `DROP TABLE`, or the line before was commented out, has no semicolon in its
    code, and the line carries on. What is recorded of it is a `DROP TABLE`,
    the line with the marker after its indentation, and the table on the nearest
    line at or above it that opens a `DROP TABLE`. -/
theorem commentedOut_lines (hrule : rules.commentDrops = true)
    (h : script.body[k]? = some line) :
    (script.CommentedOut rules k ↔
      (script.patched rules).stateBefore k = .code ∧
          Statement.kindOf (bodyOf line.content) = .dropTable ∨
        ∃ j prev, k = j + 1 ∧ script.body[j]? = some prev ∧ script.CommentedOut rules j ∧
          (code.advance prev.content).terminated = false ∧
          Statement.continuesDrop true (bodyOf line.content) = true) ∧
    ∀ edit ∈ (script.patch rules).edits, edit.line = k + 1 → edit.action = .commentOut →
      edit.kind = .dropTable ∧
      edit.after = indentOf line.content ++ ("-- ".toList ++ bodyOf line.content) ∧
      ∃ m opener, script.NearestDrop k m opener ∧
        edit.table = Kind.dropTable.tableName? (bodyOf opener.content) := by
  constructor
  · rw [CommentedOut, exists_edit_iff rules h Action.noConfusion]
    cases k with
    | zero =>
        rw [commentOut_zero_iff hrule h]
        constructor
        · intro hkind
          exact Or.inl ⟨rfl, hkind⟩
        · rintro (⟨-, hkind⟩ | ⟨j, -, hj, -⟩)
          · exact hkind
          · cases hj
    | succ k =>
        have hlt : k < script.body.length :=
          Nat.lt_of_succ_lt (List.getElem?_eq_some_iff.mp h).1
        have hprev := List.getElem?_eq_getElem hlt
        have hbefore : script.CommentedOut rules k ↔ _ :=
          exists_edit_iff rules hprev Action.noConfusion
        rw [commentOut_succ_iff hrule hprev h, ← hbefore]
        refine or_congr_right ⟨?_, ?_⟩
        · rintro ⟨hout, hopen, hgoes⟩
          exact ⟨k, script.body[k], rfl, hprev, hout, hopen, hgoes⟩
        · rintro ⟨j, prev, hj, hline, hout, hopen, hgoes⟩
          cases hj
          rw [hprev] at hline
          cases hline
          exact ⟨hout, hopen, hgoes⟩
  · intro edit hedit hnumber haction
    rcases (mem_edits_iff rules script edit).mp hedit with ⟨j, other, hj, -, rfl⟩
    obtain rfl : j = k := Nat.succ.inj hnumber
    rw [h] at hj
    cases hj
    rcases dropped_of_commentOut h haction with ⟨table, -, heq⟩
    refine ⟨by rw [heq]; rfl, ?_, exists_nearestDrop h haction⟩
    rw [heq]
    exact commentOut_eq line.content

/-- The last line of a `DROP TABLE` that goes over three lines, below another
    one. -/
theorem commentedOut_lines_third :
    let script := Script.mk "DROP TABLE a;\n  DROP TABLE b,\n\tc\n  , d;\nSELECT 1;".toList
    script.CommentedOut {} 3 ∧ ∃ m opener, script.NearestDrop 3 m opener ∧
      some ['b'] = Kind.dropTable.tableName? (bodyOf opener.content) := by
  intro script
  have hline : script.body[3]? = some ⟨"  , d;".toList, .lf⟩ := by decide
  have hlines := @commentedOut_lines {} script 3 _ rfl hline
  refine ⟨hlines.1.mpr (Or.inr ⟨2, ⟨"\tc".toList, .lf⟩, rfl, by decide, by decide, by decide,
    by decide⟩), ?_⟩
  exact (hlines.2 ⟨4, .commentOut, .dropTable, some ['b'], "  , d;".toList, "  -- , d;".toList⟩
    (by decide) rfl rfl).2.2

end Script

end Rerun
