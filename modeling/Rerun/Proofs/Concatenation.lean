import Rerun.Proofs.Turns

/-!
# Scripts One After the Other

A script that ends with a blank line ends cleanly: no statement is carried on
past it, no guard is waited for, and nothing that comes later is looked at.
What follows such a script is therefore patched as if it stood alone.

The pass keeps three things from one line to the next: a lexical state, a
phase, and the content of the line ahead. At a blank line the phase is given
up, since a `DROP TABLE` does not carry on over a blank line and a guard is
waited for only where one stands, and the line ahead does not matter
(`treat_of_blank`). That leaves the lexical state, and if it is code the pass
is back in the state that it started from. The numbers of the lines are all
that remembers the first script, and `run_shift` says how they move.

## Main definitions

* `Edit.shift`: An edit of a line that stands further down.
* `Patch.Result.followedBy`: What two passes have produced together.
* `Patch.Turn.result`: What the turn of one line has produced.

## Theorems

* `splitLines_append_of_ended`: The lines of a text that follows a complete
  line.
* `Patch.treat_of_blank`: A blank line passes, whatever comes next.
* `Patch.run_shift`: Where the numbers of the lines start does not matter.
* `Patch.run_append`: The pass over lines after a blank one.
* `Script.patch_append`: The patch of two scripts one after the other.
-/

namespace Rerun

open Text LexState

/-- An edit of a line that stands further down. -/
def Edit.shift (count : Nat) (edit : Edit) : Edit :=
  { edit with line := count + edit.line }

theorem WellSplit.append {first second : List Line} (hfirst : WellSplit first)
    (hsecond : WellSplit second)
    (hended : ∀ line, first.getLast? = some line → line.ending ≠ .missing) :
    WellSplit (first ++ second) := by
  induction first with
  | nil => exact hsecond
  | cons line rest ih =>
      rcases hfirst with ⟨hline, hmissing, hrest⟩
      refine ⟨hline, ?_, ih hrest fun other hother => hended other ?_⟩
      · -- A line without terminator would be the last one.
        intro hend
        rcases hmissing hend with ⟨-, rfl⟩
        exact absurd hend (hended line rfl)
      · rw [List.getLast?_cons, hother]
        rfl

/-- A text that follows a complete line does not change the lines before
    it. -/
theorem splitLines_append_of_ended {first second : List Char} {line : Line}
    (hlast : (splitLines first).getLast? = some line) (hended : line.ending ≠ .missing) :
    splitLines (first ++ second) = splitLines first ++ splitLines second := by
  have hsplit : WellSplit (splitLines first ++ splitLines second) := by
    refine (wellSplit_splitLines first).append (wellSplit_splitLines second) ?_
    intro other hother
    rw [hlast, Option.some.injEq] at hother
    exact hother ▸ hended
  have hjoin : joinLines (splitLines first ++ splitLines second) = first ++ second := by
    rw [joinLines, List.flatMap_append]
    exact congrArg₂ (· ++ ·) (joinLines_splitLines first) (joinLines_splitLines second)
  rw [← hjoin]
  exact splitLines_joinLines _ hsplit

namespace Patch

variable (rules : Rules)

/-- A blank line passes, whatever comes next. -/
theorem treat_of_blank {state : State} {content : List Char} (hfits : state.Fits (some content))
    (hblank : bodyOf content = []) (next : Option (List Char)) :
    treat rules state content next = pass content := by
  rcases treat_cases rules state content next with ⟨-, -, heq⟩ |
    ⟨-, -, table, ⟨hdrop, -⟩ | ⟨-, hgoes⟩, -⟩ | ⟨-, -, hkind, -⟩ | ⟨table, hphase, -⟩
  · exact heq
  · rw [hblank] at hdrop
    cases hdrop
  · rw [hblank] at hgoes
    cases hgoes
  · rw [hblank] at hkind
    cases hkind
  · -- A guard is waited for only where one stands, and it is not blank.
    rcases (hfits.of_guarding hphase).2 with ⟨guard, hguard⟩
    rcases Statement.initial_of_leading? hguard with ⟨c, rest, hbody, -⟩
    rw [hblank] at hbody
    cases hbody

/-- Where the numbers of the lines start makes no difference but to the
    numbers. -/
theorem run_shift (state : State) (count number : Nat) (lines : List Line) :
    run rules state (count + number) lines =
      { run rules state number lines with
        edits := (run rules state number lines).edits.map (Edit.shift count) } := by
  induction lines generalizing state number with
  | nil => rfl
  | cons line rest ih =>
      simp only [run, Nat.add_assoc, ih, List.map_append, Result.mk.injEq, true_and, and_true]
      refine congrArg (· ++ _) ?_
      unfold Turn.edit?
      split <;> rfl

/-- What two passes have produced together, the second one over lines that
    follow those of the first. -/
def Result.followedBy (first second : Result) : Result :=
  { lines := first.lines ++ second.lines
    edits := first.edits ++ second.edits
    guarded := first.guarded + second.guarded
    last := second.last }

theorem Result.followedBy_assoc (first second third : Result) :
    (first.followedBy second).followedBy third = first.followedBy (second.followedBy third) := by
  simp only [followedBy, List.append_assoc, Nat.add_assoc]

/-- What the turn of a single line has produced. -/
def Turn.result (turn : Turn) (state : State) (number : Nat) (line : Line) : Result :=
  { lines := [⟨turn.treated.text, line.ending⟩]
    edits := (turn.edit? number line.content).toList
    guarded := if turn.guarded then 1 else 0
    last := (state.next turn).lex }

/-- The pass makes one turn and goes on from there. -/
theorem run_cons (state : State) (number : Nat) (line : Line) (rest : List Line) :
    run rules state number (line :: rest) =
      ((treat rules state line.content (rest.head?.map Line.content)).result state number
        line).followedBy
        (run rules (state.next (treat rules state line.content (rest.head?.map Line.content)))
          (number + 1) rest) :=
  rfl

/-- The pass over lines that follow a blank one, after which the lexical state
    is code, is a pass of its own. -/
theorem run_append {state : State} {number : Nat} {lines : List Line} {blank : Line}
    (hfits : state.Fits (lines[0]?.map Line.content)) (hlast : lines.getLast? = some blank)
    (hblank : bodyOf blank.content = []) (hcode : (run rules state number lines).last = .code)
    (rest : List Line) :
    run rules state number (lines ++ rest) =
      (run rules state number lines).followedBy
        (run rules .start (number + lines.length) rest) := by
  induction lines generalizing state number with
  | nil => cases hlast
  | cons first tail ih =>
      cases tail with
      | nil =>
          -- The blank line looks at nothing, and leaves nothing but its lexical state.
          rw [List.getLast?_singleton, Option.some.injEq] at hlast
          subst hlast
          have hpass := treat_of_blank rules hfits hblank
          have hstart : state.next (pass first.content) = .start := by
            rw [run_cons, hpass] at hcode
            exact congrArg (State.mk · .free) hcode
          rw [List.cons_append, List.nil_append, run_cons, run_cons, hpass, hpass, hstart,
            Result.followedBy_assoc]
          simp only [run, Result.followedBy, List.nil_append, Nat.zero_add, List.length_singleton]
      | cons second more =>
          -- The line ahead is the same with and without the rest.
          have hnext := ih (fits_next rules state first.content (some second.content)) hlast hcode
          rw [List.cons_append, run_cons, run_cons, Result.followedBy_assoc, List.length_cons,
            ← Nat.add_assoc, Nat.add_right_comm]
          exact congrArg (Result.followedBy _) hnext

end Patch

namespace Script

variable {first second : Script}

/-- A script has no mark if its text does not begin with one. -/
theorem mark_eq_nil_of_head? (h : first.text.head? ≠ some byteOrderMark) : first.mark = [] := by
  have htext := text_eq_mark_append first
  unfold mark at htext ⊢
  split
  · rfl
  · rename_i line rest hlines
    rw [hlines] at htext
    cases hcontent : line.content with
    | nil => rfl
    | cons c tail =>
        by_cases hc : c = byteOrderMark
        · simp only [hcontent, splitMark, if_pos hc, List.cons_append] at htext
          rw [htext, hc] at h
          exact absurd rfl h
        · rw [splitMark, if_neg hc]

theorem body_eq_lines (h : first.mark = []) : first.body = first.lines := by
  rw [lines_eq_withMark, h]
  cases first.body <;> rfl

/-- The mark and the body of two scripts one after the other. -/
theorem mark_body_append {line : Line} (hlast : first.lines.getLast? = some line)
    (hended : line.ending ≠ .missing) (hmark : second.mark = []) :
    (Script.mk (first.text ++ second.text)).mark = first.mark ∧
      (Script.mk (first.text ++ second.text)).body = first.body ++ second.body := by
  have hlines : (Script.mk (first.text ++ second.text)).lines = first.lines ++ second.lines :=
    splitLines_append_of_ended hlast hended
  rw [body_eq_lines hmark]
  unfold mark body
  rw [hlines]
  cases hfirst : first.lines with
  | nil =>
      rw [hfirst] at hlast
      cases hlast
  | cons head rest => exact ⟨rfl, rfl⟩

/-- The last line of a script is also the last one of its body, but for the
    mark: if it is blank, so is that one. -/
theorem getLast?_body {line : Line} (hlast : first.lines.getLast? = some line)
    (hblank : ∀ c ∈ line.content, isBlank c = true) :
    ∃ blank, first.body.getLast? = some blank ∧ bodyOf blank.content = [] := by
  unfold body
  cases hlines : first.lines with
  | nil =>
      rw [hlines] at hlast
      cases hlast
  | cons head rest =>
      rw [hlines] at hlast
      cases rest with
      | nil =>
          rw [List.getLast?_singleton, Option.some.injEq] at hlast
          subst hlast
          refine ⟨_, List.getLast?_singleton, List.dropWhile_eq_nil_iff.mpr fun c hc => ?_⟩
          refine hblank c ?_
          rw [← splitMark_append head.content]
          exact List.mem_append_right _ hc
      | cons next more =>
          exact ⟨line, hlast, List.dropWhile_eq_nil_iff.mpr hblank⟩

/-- Patching two scripts one after the other is patching each of them, where
    the first one ends with a blank line and in code and the second one does
    not begin with a mark: the texts follow each other, and so do the edits,
    with the numbers of the second ones moved by the lines of the first script;
    the counts add up, and the end is that of the second. -/
theorem patch_append (rules : Rules) (first second : Script) (line : Line)
    (hlast : first.lines.getLast? = some line) (hblank : ∀ c ∈ line.content, isBlank c = true)
    (hended : line.ending ≠ .missing) (hcode : (first.patch rules).last = .code)
    (hmark : second.text.head? ≠ some byteOrderMark) :
    (Script.mk (first.text ++ second.text)).patch rules =
      { text := (first.patch rules).text ++ (second.patch rules).text
        edits := (first.patch rules).edits ++
          (second.patch rules).edits.map (Edit.shift (first.patch rules).lines)
        lines := (first.patch rules).lines + (second.patch rules).lines
        guarded := (first.patch rules).guarded + (second.patch rules).guarded
        last := (second.patch rules).last } := by
  have hnone := mark_eq_nil_of_head? hmark
  rcases mark_body_append hlast hended hnone with ⟨hwhole, hbody⟩
  rcases getLast?_body hlast hblank with ⟨blank, hlast', hblank'⟩
  have hfits : Patch.State.start.Fits (first.body[0]?.map Line.content) := trivial
  have hrun : Patch.run rules .start 1 (first.body ++ second.body) =
      (Patch.run rules .start 1 first.body).followedBy
        (Patch.run rules .start (first.lines.length + 1) second.body) := by
    rw [Patch.run_append rules hfits hlast' hblank' hcode, length_body, Nat.add_comm 1]
  have hlength : (Script.mk (first.text ++ second.text)).lines.length =
      first.lines.length + second.lines.length := by
    rw [← length_body, hbody, List.length_append, length_body, length_body]
  simp only [patch, hwhole, hbody, hrun, hlength, hnone, Patch.run_shift, Patch.Result.followedBy,
    joinLines, List.flatMap_append, List.append_assoc, List.nil_append]

/-- A script that comments out a `DROP TABLE` left open, then a blank line that
    is not empty, then a script of its own. -/
theorem patch_append_open_drop :
    let first := Script.mk "DROP TABLE a\n\t\n".toList
    let second := Script.mk "b;\nCREATE TABLE c".toList
    (Script.mk (first.text ++ second.text)).patch {} =
      { text := (first.patch {}).text ++ (second.patch {}).text
        edits := (first.patch {}).edits ++ (second.patch {}).edits.map (Edit.shift 2)
        lines := 2 + 2
        guarded := (first.patch {}).guarded + (second.patch {}).guarded
        last := (second.patch {}).last } :=
  patch_append {} _ _ ⟨['\t'], .lf⟩ (by decide) (List.forall_mem_singleton.mpr (by decide))
    (by decide) (by decide) (by decide)

end Script

end Rerun
