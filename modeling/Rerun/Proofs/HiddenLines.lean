import Rerun.Proofs.Turns

/-!
# Lines Inside Comments and Literals

A line that starts inside a block comment or a literal holds no statement,
and a pass that knows where it stands does not touch it. The pass knows where
it stands in the text it *writes*. Commenting out a line hides whatever the
line opened, so after a `DROP TABLE` line that leaves a comment or a literal
open the written text is back in code while the script as read is not. The
lines that follow are then taken for statements.

This is the only way in which the two can part. `tracks_succ` is the step:
where the states agree before a line, they agree after it unless the line was
commented out and leaves something open. The lines inside comments and
literals therefore keep their content and their state exactly if no line that
was commented out, the last one aside, leaves something open
(`hidden_lines_kept_iff`).

## Main definitions

* `Script.Tracks`: The states as read and as written agree before a line.

## Theorems

* `Script.turn_of_hidden`: A line that starts hidden as written is left alone.
* `Script.tracks_succ`: When the states go on to agree.
* `Script.tracks_of_closed`, `Script.forall_tracks_iff`: When the states agree
  up to a line, and throughout.
* `Script.hidden_lines_kept_iff`: When lines inside comments and literals are
  kept.
* `Script.hidden_line_commented_out`: A line inside a comment that is
  commented out.
-/

namespace Rerun

open Text LexState

namespace Script

variable (rules : Rules) {script : Script}

/-- The lexical states before a line, as read and as written, agree. -/
def Tracks (rules : Rules) (script : Script) (k : Nat) : Prop :=
  (script.patched rules).stateBefore k = script.stateBefore k

/-- A line that starts inside a comment or a literal of the written text is
    left alone. -/
theorem turn_of_hidden {k : Nat} {line : Line} (h : script.body[k]? = some line)
    (hne : (script.patched rules).stateBefore k ≠ .code) :
    script.turn rules k line.content = Patch.pass line.content := by
  rw [stateBefore_patched] at hne
  rcases turn_cases rules h with ⟨-, heq⟩ | ⟨hlex, -⟩ | ⟨hlex, -⟩ | ⟨hlex, -⟩
  · exact heq
  · exact absurd hlex hne
  · exact absurd hlex hne
  · exact absurd hlex hne

/-- Where the states agree before a line, they agree after it unless the line
    was commented out and leaves a comment or a literal open. -/
theorem tracks_succ {k : Nat} {line : Line} (h : script.body[k]? = some line)
    (htracks : script.Tracks rules k) :
    script.Tracks rules (k + 1) ↔
      ((script.turn rules k line.content).treated.action = .commentOut →
        (code.advance line.content).last = .code) := by
  unfold Tracks at htracks ⊢
  rw [stateBefore_patched] at htracks
  rw [stateBefore_patched, passState_succ rules h, stateBefore_succ h, ← htracks]
  by_cases hout : (script.turn rules k line.content).treated.action = .commentOut
  · -- What is written is a comment, and a comment leaves nothing open.
    rcases turn_of_commentOut rules script hout with ⟨hlex, htext⟩
    have hcode : ((script.passState rules k).next (script.turn rules k line.content)).lex
        = .code := by
      change ((script.passState rules k).lex.advance
        (script.turn rules k line.content).treated.text).last = .code
      rw [hlex, htext]
      exact advance_commentOut line.content
    rw [hcode, hlex]
    constructor
    · intro heq _
      exact heq.symm
    · intro hlast
      exact (hlast hout).symm
  · -- Any other turn leaves the line with the state it had at its end.
    have hkept := congrArg Effect.last (Patch.advance_treat (fits_passState rules h) hout)
    constructor
    · intro _ hcontra
      exact absurd hcontra hout
    · intro _
      exact hkept

/-- The states agree up to a line if no line before it that was commented out
    leaves a comment or a literal open. -/
theorem tracks_of_closed {k : Nat} (hk : k < script.body.length)
    (hclosed : ∀ edit ∈ (script.patch rules).edits, edit.action = .commentOut →
      edit.line ≤ k → (code.advance edit.before).last = .code) :
    ∀ j ≤ k, script.Tracks rules j := by
  intro j
  induction j with
  | zero =>
      intro _
      rfl
  | succ j ih =>
      intro hj
      have hline := List.getElem?_eq_getElem (Nat.lt_trans hj hk)
      refine (tracks_succ rules hline (ih (Nat.le_of_lt hj))).mpr ?_
      intro hout
      refine hclosed _ ((mem_edits_iff rules script _).mpr ⟨j, _, hline, ?_, rfl⟩) hout hj
      rw [hout]
      exact Action.noConfusion

/-- The states agree throughout exactly if no line that was commented out, the
    last line aside, leaves a comment or a literal open. -/
theorem forall_tracks_iff :
    (∀ k < script.body.length, script.Tracks rules k) ↔
      ∀ edit ∈ (script.patch rules).edits, edit.action = .commentOut →
        edit.line < script.body.length → (code.advance edit.before).last = .code := by
  constructor
  · intro htracks edit hedit hout hline
    rcases (mem_edits_iff rules script edit).mp hedit with ⟨k, line, hk, -, rfl⟩
    exact (tracks_succ rules hk (htracks k (Nat.lt_of_succ_lt hline))).mp (htracks (k + 1) hline)
      hout
  · intro hclosed k hk
    refine tracks_of_closed rules hk ?_ k (Nat.le_refl k)
    intro edit hedit hout hle
    exact hclosed edit hedit hout (Nat.lt_of_le_of_lt hle hk)

/-- Lines inside comments and literals keep their content and their state, and
    no edit names them, exactly if no line that was commented out, the last
    line aside, leaves a comment or a literal open. -/
theorem hidden_lines_kept_iff (rules : Rules) (script : Script) :
    (∀ k line, script.body[k]? = some line → script.stateBefore k ≠ .code →
      (script.patched rules).body[k]? = some line ∧
      (∀ edit ∈ (script.patch rules).edits, edit.line ≠ k + 1) ∧
      (script.patched rules).stateBefore k = script.stateBefore k) ↔
    ∀ edit ∈ (script.patch rules).edits, edit.action = .commentOut →
      edit.line < script.lines.length → (code.advance edit.before).last = .code := by
  -- Both sides amount to the states agreeing before every line.
  rw [← length_body, ← forall_tracks_iff]
  constructor
  · intro hkept k
    induction k with
    | zero =>
        intro _
        rfl
    | succ k ih =>
        intro hk
        have hlt : k < script.body.length := Nat.lt_of_succ_lt hk
        have hline : script.body[k]? = some script.body[k] := List.getElem?_eq_getElem hlt
        by_cases hcode : script.stateBefore (k + 1) = .code
        · -- Nothing is open before the next line, so nothing was left open.
          refine (tracks_succ rules hline (ih hlt)).mpr ?_
          intro hout
          have hlex : script.stateBefore k = .code := by
            rw [← ih hlt, stateBefore_patched]
            exact (turn_of_commentOut rules script hout).1
          rwa [stateBefore_succ hline, hlex] at hcode
        · exact (hkept (k + 1) _ (List.getElem?_eq_getElem hk) hcode).2.2
  · intro htracks k line hline hne
    have hstate := htracks k (List.getElem?_eq_some_iff.mp hline).1
    -- The line is hidden in the written text too, where the pass can see it.
    have hturn : script.turn rules k line.content = Patch.pass line.content := by
      refine turn_of_hidden rules hline ?_
      rw [hstate]
      exact hne
    refine ⟨?_, ?_, hstate⟩
    · rw [getElem?_body_patched, hline, Option.map_some, hturn]
      rfl
    · intro edit hedit hnumber
      rcases (mem_edits_iff rules script edit).mp hedit with ⟨j, other, hj, hkeep, rfl⟩
      rw [Nat.succ.inj hnumber, hline] at hj
      cases hj
      rw [Nat.succ.inj hnumber, hturn] at hkeep
      exact hkeep rfl

/-- A comment that opens on a commented-out line does not protect the lines
    inside it. -/
theorem hidden_line_commented_out :
    ¬ ∀ (rules : Rules) (script : Script) (k : Nat) (line : Line),
      script.body[k]? = some line → script.stateBefore k ≠ .code →
        (script.patched rules).body[k]? = some line ∧
        ∀ edit ∈ (script.patch rules).edits, edit.line ≠ k + 1 := by
  intro h
  have hline := (h {} ⟨"DROP TABLE a; /* note\nDROP TABLE b;\n*/\n".toList⟩ 1
    ⟨"DROP TABLE b;".toList, .lf⟩ (by decide) (by decide)).1
  exact absurd hline (by decide)

end Script

end Rerun
