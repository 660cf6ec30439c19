import Rerun.Proofs.HiddenLines
import Rerun.Proofs.SpanLines

/-!
# Which Drops Are Commented Out

The pass and the scan both decide which lines belong to a `DROP TABLE`, each
with a state of its own. The pass knows that a `DROP TABLE` is being commented
out, and looks at the text that it writes. The scan knows the open span and
how deep it stands in parentheses, and looks at the text that it reads.

Between the two stands `DropRuns`, which says of the lines of a script alone
that they are taken up by a `DROP TABLE`: one line opens it, and each of the
next lines carries it on. As long as the states as read and as written agree,
the pass comments out the lines of these runs (`commentOut_iff_dropRuns`). The
scan gives each of them a span of kind `DROP TABLE`, with one exception
(`dropRuns_iff_joined`). A statement inside the parentheses that an open span
has not closed belongs to that span, whatever its first word is, while the
pass does not look at parentheses. A `DROP TABLE` that stands there is
commented out and has no span of its own.

## Main definitions

* `Script.DropRuns`: The lines that a `DROP TABLE` takes up.

## Theorems

* `Script.commentOut_iff`: When a line is commented out.
* `Script.commentOut_iff_dropRuns`: The lines that the pass comments out.
* `Script.dropRuns_iff_joined`: What the scan makes of these lines.
* `Script.commentOut_iff_span`: The lines that are commented out, by the spans
  that they are on.
* `Script.drop_inside_parentheses`: A line that is commented out and is on no
  `DROP TABLE` span.
-/

namespace Rerun

open Text LexState

namespace Span

/-- An open span that does not stop before a line with a `DROP TABLE` has left
    parentheses open. -/
theorem pos_of_not_stopsBefore {span : Span} {depth : Int} {body : List Char}
    (hkind : Statement.kindOf body = .dropTable) (h : span.stopsBefore depth true body = false) :
    0 < depth := by
  have helig := Statement.eligible_of_initial (Statement.initial_of_dropTable hkind) (by decide)
    (by decide)
  have hopens := Statement.opens_of_dropTable hkind
  -- A `DROP TABLE` span stops before every line that begins a statement, and
  -- the others do so outside parentheses.
  cases hspan : span.kind with
  | dropTable => simp [stopsBefore, hspan, Statement.continuesDrop, hopens] at h
  | createTable => simpa [stopsBefore, hspan, helig, hopens] using h
  | other => simpa [stopsBefore, hspan, helig, hopens] using h

/-- No span stops before a line that carries on a `DROP TABLE`. -/
theorem not_stopsBefore_of_continuesDrop (span : Span) (depth : Int) {body : List Char}
    (h : Statement.continuesDrop true body = true) : span.stopsBefore depth true body = false := by
  have hopens : Statement.opens body = false := by
    simp only [Statement.continuesDrop, Bool.and_eq_true, Bool.not_eq_true'] at h
    exact h.2
  cases hspan : span.kind with
  | dropTable => simp only [stopsBefore, hspan, h, Bool.not_true]
  | createTable => simp only [stopsBefore, hspan, hopens, Bool.and_false]
  | other => simp only [stopsBefore, hspan, hopens, Bool.and_false]

end Span

namespace Script

variable {rules : Rules} {script : Script} {k : Nat} {line : Line}

/-- A line is commented out exactly if it starts in code and opens a
    `DROP TABLE`, or carries on the one that is being commented out. -/
theorem commentOut_iff (hrule : rules.commentDrops = true) (h : script.body[k]? = some line) :
    (script.turn rules k line.content).treated.action = .commentOut ↔
      (script.passState rules k).lex = .code ∧
        (Statement.kindOf (bodyOf line.content) = .dropTable ∨
          (∃ table, (script.passState rules k).phase = .dropping table) ∧
            Statement.continuesDrop true (bodyOf line.content) = true) := by
  constructor
  · intro hout
    rcases turn_cases rules h with ⟨-, heq⟩ | ⟨hlex, table, hdropped, -⟩ | ⟨-, -, heq⟩ |
      ⟨-, table, guard, -, heq⟩
    · rw [heq] at hout
      cases hout
    · rcases hdropped with ⟨hkind, -, -⟩ | ⟨hphase, hgoes⟩
      · exact ⟨hlex, Or.inl hkind⟩
      · exact ⟨hlex, Or.inr ⟨⟨table, hphase⟩, hgoes⟩⟩
    · rw [heq] at hout
      exact absurd hout (guardCreate_ne_commentOut rules line.content _)
    · rw [heq] at hout
      exact absurd hout (mendLeading_ne_commentOut rules line.content)
  · rintro ⟨hlex, hkind | ⟨⟨table, hphase⟩, hgoes⟩⟩
    · -- Any other turn would need a line of another kind.
      rcases turn_cases rules h with ⟨hidle, -⟩ | ⟨-, table, -, heq⟩ | ⟨-, hcreate, -⟩ |
        ⟨-, table, guard, hguard, -⟩
      · rw [hlex] at hidle
        rcases hidle.kindOf with hother | ⟨-, hoff⟩
        · rw [hkind] at hother
          cases hother
        · rw [hrule] at hoff
          cases hoff
      · rw [heq]
        rfl
      · rw [hkind] at hcreate
        cases hcreate
      · rw [Statement.kindOf_of_leading? hguard] at hkind
        cases hkind
    · have hturn : script.turn rules k line.content = Patch.drop table line.content :=
        Patch.treat_of_dropping hphase hlex hgoes _
      rw [hturn]
      rfl

/-- A `DROP TABLE` is being commented out after a line exactly if the line was
    commented out and has no semicolon. -/
theorem dropping_succ_iff (h : script.body[k]? = some line) :
    (∃ table, (script.passState rules (k + 1)).phase = .dropping table) ↔
      (script.turn rules k line.content).treated.action = .commentOut ∧
        (code.advance line.content).terminated = false := by
  rw [passState_succ rules h]
  change (∃ table, (script.turn rules k line.content).phase = .dropping table) ↔ _
  rcases turn_cases rules h with ⟨-, heq⟩ | ⟨-, table, -, heq⟩ | ⟨-, -, heq⟩ |
    ⟨-, table, guard, -, heq⟩
  · rw [heq]
    simp [Patch.pass, Treated.kept]
  · rw [heq]
    simp only [Patch.drop, true_and]
    cases (code.advance line.content).terminated <;> simp
  · rw [heq]
    constructor
    · rintro ⟨table, hphase⟩
      exact absurd hphase (Patch.create_phase_ne_dropping rules line.content _ table)
    · rintro ⟨hout, -⟩
      exact absurd hout (guardCreate_ne_commentOut rules line.content _)
  · rw [heq]
    constructor
    · rintro ⟨other, hphase⟩
      cases hphase
    · rintro ⟨hout, -⟩
      exact absurd hout (mendLeading_ne_commentOut rules line.content)

/-- The lines that a `DROP TABLE` takes up: it opens on the line with the first
    index, and is carried on up to the line with the second one. -/
inductive DropRuns (script : Script) (m : Nat) : Nat → Prop
  | opens {line : Line} : script.body[m]? = some line → script.stateBefore m = .code →
      Statement.kindOf (bodyOf line.content) = .dropTable → DropRuns script m m
  | carries {k : Nat} {line next : Line} : DropRuns script m k → script.body[k]? = some line →
      (code.advance line.content).terminated = false → script.body[k + 1]? = some next →
      script.stateBefore (k + 1) = .code →
      Statement.continuesDrop true (bodyOf next.content) = true → DropRuns script m (k + 1)

theorem DropRuns.code {m : Nat} (h : script.DropRuns m k) : script.stateBefore k = .code := by
  cases h with
  | opens _ hcode _ => exact hcode
  | carries _ _ _ _ hcode _ => exact hcode

/-- Where the states as read and as written agree, the pass comments out the
    lines that a `DROP TABLE` takes up. -/
theorem commentOut_iff_dropRuns (hrule : rules.commentDrops = true)
    (h : script.body[k]? = some line) (htracks : ∀ j ≤ k, script.Tracks rules j) :
    (script.turn rules k line.content).treated.action = .commentOut ↔
      ∃ m, script.DropRuns m k := by
  -- The pass remembers of the line before whether it was commented out, and
  -- that is what the induction knows of it.
  induction k generalizing line with
  | zero =>
      rw [commentOut_iff hrule h, passState_zero]
      constructor
      · rintro ⟨-, hkind | ⟨⟨table, hphase⟩, -⟩⟩
        · exact ⟨0, .opens h rfl hkind⟩
        · cases hphase
      · rintro ⟨m, hruns⟩
        cases hruns with
        | opens hline _ hkind =>
            rw [h] at hline
            cases hline
            exact ⟨rfl, Or.inl hkind⟩
  | succ k ih =>
      have hlex : (script.passState rules (k + 1)).lex = script.stateBefore (k + 1) := by
        rw [← stateBefore_patched]
        exact htracks (k + 1) (Nat.le_refl _)
      have hlt : k < script.body.length :=
        Nat.lt_of_succ_lt (List.getElem?_eq_some_iff.mp h).1
      have hbefore := List.getElem?_eq_getElem hlt
      have hprev := ih hbefore fun j hj => htracks j (Nat.le_succ_of_le hj)
      rw [commentOut_iff hrule h, dropping_succ_iff hbefore, hprev, hlex]
      constructor
      · rintro ⟨hcode, hkind | ⟨⟨⟨m, hruns⟩, hopen⟩, hgoes⟩⟩
        · exact ⟨k + 1, .opens h hcode hkind⟩
        · exact ⟨m, .carries hruns hbefore hopen h hcode hgoes⟩
      · rintro ⟨m, hruns⟩
        cases hruns with
        | opens hline hcode hkind =>
            rw [h] at hline
            cases hline
            exact ⟨hcode, Or.inl hkind⟩
        | carries hruns hline hopen hnext hcode hgoes =>
            rw [h] at hnext
            rw [hbefore] at hline
            cases hnext
            cases hline
            exact ⟨hcode, Or.inr ⟨⟨⟨m, hruns⟩, hopen⟩, hgoes⟩⟩

/-- A line of a `DROP TABLE` span belongs to the run that opens on the first
    line of the span. -/
theorem dropRuns_of_joined {span : Span} {depth : Int} (hkind : span.kind = .dropTable)
    (h : script.body[k]? = some line) (hjoined : script.joinedAt k = some (span, depth)) :
    script.DropRuns (span.startLine - 1) k := by
  induction k generalizing line span depth with
  | zero =>
      rcases joinedAt_cases h hjoined with ⟨old, before, hcurrent, -⟩ | ⟨-, hopened, hstart, -⟩
      · rw [cursorAt_zero] at hcurrent
        cases hcurrent
      · rw [hstart]
        exact .opens h rfl (hopened.symm.trans hkind)
  | succ k ih =>
      rcases joinedAt_cases h hjoined with ⟨old, before, hcurrent, hstays, hsame, hstart, -⟩ |
        ⟨helig, hopened, hstart, -⟩
      · -- The span was open before the line, so the line before has joined it.
        have hlt : k < script.body.length :=
          Nat.lt_of_succ_lt (List.getElem?_eq_some_iff.mp h).1
        have hbefore := List.getElem?_eq_getElem hlt
        rw [current_cursorAt_succ hbefore] at hcurrent
        split at hcurrent
        · cases hcurrent
        · rename_i hopen
          have hold : old.kind = .dropTable := hsame.symm.trans hkind
          have hruns := ih hold hbefore hcurrent
          rw [hruns.code, Bool.not_eq_true] at hopen
          simp only [Span.stopsBefore, hold, Bool.not_eq_false', Statement.continuesDrop_iff]
            at hstays
          rw [hstart]
          exact .carries hruns hbefore hopen h hstays.1 hstays.2
      · rw [hstart]
        refine .opens h ?_ (hopened.symm.trans hkind)
        simp only [Statement.eligible, Bool.and_eq_true, beq_iff_eq] at helig
        exact helig.1.1.1

/-- A line that a `DROP TABLE` takes up joins a `DROP TABLE` span, or a span
    with parentheses that are open where the `DROP TABLE` begins. -/
theorem DropRuns.joined {m : Nat} (h : script.DropRuns m k) :
    ∃ span depth, script.joinedAt k = some (span, depth) ∧
      (span.kind = .dropTable ∨ 0 < script.openParens (span.startLine - 1) m) := by
  induction h with
  | @opens line hline hcode hkind =>
      have hm := Nat.le_of_lt (List.getElem?_eq_some_iff.mp hline).1
      have hin : (script.stateBefore m == .code) = true := by
        rw [hcode]
        rfl
      by_cases hstays : ∃ span depth, (script.cursorAt m).current = some (span, depth) ∧
          span.stopsBefore depth (script.stateBefore m == .code) (bodyOf line.content) = false
      · -- Only parentheses keep a span from stopping before a `DROP TABLE`.
        rcases hstays with ⟨span, depth, hcurrent, hstays⟩
        rcases joinedAt_of_stays hline hcurrent hstays with ⟨later, hjoined, -, hstart⟩
        rw [hin] at hstays
        refine ⟨later, _, hjoined, Or.inr ?_⟩
        rw [hstart, ← (depth_cursorAt hm hcurrent).2]
        exact Span.pos_of_not_stopsBefore hkind hstays
      · have helig : Statement.eligible (script.stateBefore m == .code) (bodyOf line.content)
            = true := by
          rw [hin]
          exact Statement.eligible_of_initial (Statement.initial_of_dropTable hkind) (by decide)
            (by decide)
        have hstops : ∀ span depth, (script.cursorAt m).current = some (span, depth) →
            span.stopsBefore depth (script.stateBefore m == .code) (bodyOf line.content)
              = true := by
          intro span depth hcurrent
          refine Bool.of_not_eq_false ?_
          intro hno
          exact hstays ⟨span, depth, hcurrent, hno⟩
        rcases joinedAt_of_stops hline helig hstops with ⟨later, hjoined, hopened, -⟩
        exact ⟨later, _, hjoined, Or.inl (hopened.trans hkind)⟩
  | @carries k line next hruns hline hopen hnext hcode hgoes ih =>
      -- What the line before has joined is still open, and stays so.
      rcases ih with ⟨span, depth, hjoined, hspan⟩
      have hcurrent : (script.cursorAt (k + 1)).current = some (span, depth) := by
        rw [current_cursorAt_succ hline, hruns.code, hopen, hjoined]
        rfl
      have hstays : span.stopsBefore depth (script.stateBefore (k + 1) == .code)
          (bodyOf next.content) = false := by
        rw [hcode]
        exact span.not_stopsBefore_of_continuesDrop depth hgoes
      rcases joinedAt_of_stays hnext hcurrent hstays with ⟨later, hlater, hkind, hstart⟩
      refine ⟨later, _, hlater, ?_⟩
      rw [hkind, hstart]
      exact hspan

/-- What the scan makes of the lines that a `DROP TABLE` takes up. -/
theorem dropRuns_iff_joined (h : script.body[k]? = some line) :
    (∃ m, script.DropRuns m k) ↔ ∃ span depth, script.joinedAt k = some (span, depth) ∧
      (span.kind = .dropTable ∨
        ∃ m, 0 < script.openParens (span.startLine - 1) m ∧ script.DropRuns m k) := by
  constructor
  · rintro ⟨m, hruns⟩
    rcases hruns.joined with ⟨span, depth, hjoined, hkind | hopen⟩
    · exact ⟨span, depth, hjoined, Or.inl hkind⟩
    · exact ⟨span, depth, hjoined, Or.inr ⟨m, hopen, hruns⟩⟩
  · rintro ⟨span, depth, hjoined, hkind | ⟨m, -, hruns⟩⟩
    · exact ⟨_, dropRuns_of_joined hkind h hjoined⟩
    · exact ⟨m, hruns⟩

/-- A line is commented out exactly if it is on a `DROP TABLE` span, or on a
    span with parentheses that are still open where a `DROP TABLE` begins, and
    this `DROP TABLE` takes up the line. It is assumed that no line before it
    that was commented out leaves a comment or a literal open. -/
theorem commentOut_iff_span (hrule : rules.commentDrops = true)
    (hclosed : ∀ edit ∈ (script.patch rules).edits, edit.action = .commentOut →
      edit.line ≤ k → (code.advance edit.before).last = .code) :
    (∃ edit ∈ (script.patch rules).edits, edit.line = k + 1 ∧ edit.action = .commentOut) ↔
      ∃ span ∈ script.spans, span.startLine ≤ k + 1 ∧ k + 1 ≤ span.endLine ∧
        (span.kind = .dropTable ∨
          ∃ m, 0 < script.openParens (span.startLine - 1) m ∧ script.DropRuns m k) := by
  rw [exists_span_iff script k fun kind start => kind = .dropTable ∨
    ∃ m, 0 < script.openParens (start - 1) m ∧ script.DropRuns m k]
  cases h : script.body[k]? with
  | none =>
      -- Beyond the last line there is neither an edit nor a span.
      constructor
      · rintro ⟨edit, hedit, hnumber, -⟩
        rcases (mem_edits_iff rules script edit).mp hedit with ⟨j, line, hline, -, rfl⟩
        rw [Nat.succ.inj hnumber, h] at hline
        cases hline
      · rintro ⟨span, depth, hjoined, -⟩
        rw [joinedAt, h] at hjoined
        cases hjoined
  | some line =>
      have htracks := tracks_of_closed rules (List.getElem?_eq_some_iff.mp h).1 hclosed
      rw [exists_edit_iff rules h Action.noConfusion, commentOut_iff_dropRuns hrule h htracks]
      exact dropRuns_iff_joined h

/-- The second line of a `DROP TABLE` inside a list of values. -/
theorem commentOut_iff_span_nested :
    ∃ edit ∈ ((Script.mk "INSERT INTO t VALUES (\nDROP TABLE b\n, c);\n".toList).patch {}).edits,
      edit.line = 3 ∧ edit.action = .commentOut := by
  have hiff := @commentOut_iff_span {} ⟨"INSERT INTO t VALUES (\nDROP TABLE b\n, c);\n".toList⟩ 2
    rfl (by decide)
  refine hiff.mpr ⟨⟨.other, 1, 3, 0, 42, [], none, none, true⟩, by decide, by decide, by decide, ?_⟩
  refine Or.inr ⟨1, by decide, ?_⟩
  exact @DropRuns.carries _ _ _ ⟨"DROP TABLE b".toList, .lf⟩ ⟨", c);".toList, .lf⟩
    (@DropRuns.opens _ _ ⟨"DROP TABLE b".toList, .lf⟩ (by decide) (by decide) (by decide))
    (by decide) (by decide) (by decide) (by decide) (by decide)

/-- A `DROP TABLE` inside the parentheses of another statement is commented
    out, and has no span of its own. -/
theorem drop_inside_parentheses :
    ¬ ∀ (rules : Rules) (script : Script), rules.commentDrops = true → ∀ number,
      (∃ edit ∈ (script.patch rules).edits, edit.line = number ∧ edit.action = .commentOut) ↔
        ∃ span ∈ script.spans, span.kind = .dropTable ∧ span.startLine ≤ number ∧
          number ≤ span.endLine := by
  intro h
  have hline := (h {} ⟨"INSERT INTO t VALUES (\nDROP TABLE x;\n".toList⟩ rfl 2).mp (by decide)
  exact absurd hline (by decide)

end Script

end Rerun
