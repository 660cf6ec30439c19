import Rerun.Proofs.LineEdits

/-!
# The Pass, Line by Line

What one turn of the pass can do, and what the whole pass therefore does.

`treat_cases` is the only place that opens `treat`. A line passes untouched,
is commented out, opens a `CREATE TABLE`, or holds the guard of the bare head
before it, and each case says what is known of the line and of the state.

Between two lines a state *fits* what follows: while a `DROP TABLE` is being
commented out the lexical state is code, because the lines written are
comments, and a guard is expected only where one stands. Every turn leaves a
state that fits the next line (`fits_next`), so every state of a run does.

`stateAt` is the state before the line with a given index. With it, whatever
is proved of one turn is a fact about a line of the script: the line that is
written there, the edit that names it and the lexical state before it are
those of the turn at that index. The lexical state is the one that a fresh
lexer of the *written* text is in, and it is the one a second pass will see.

## Main definitions

* `Patch.guardLine`: The turn of a line that holds the guard of the head
  before it.
* `Patch.Idle`: A line that the rules have nothing to say about.
* `Patch.State.Fits`: A state that fits the next line.
* `Patch.stateAt`, `Patch.turnAt`: The state before a line of a run, and the
  turn of the line.
* `Script.stateBefore`: The lexical state in which a line of a script starts.
* `Script.patched`: The script that is written.
* `Script.passState`, `Script.turn`: The state of the pass before a line of a
  script, and the turn of the line.

## Theorems

* `Patch.treat_cases`: What one turn can do.
* `Patch.fits_next`: A turn leaves a state that fits.
* `Patch.replaces_treat`: A turn does not move the edges of its line.
* `Patch.advance_treat`: The effect of a line that was not commented out.
* `Patch.getElem?_run_lines`, `Patch.mem_run_edits_iff`, `Patch.lex_stateAt`:
  The lines, the edits and the states of a run, by index.
* `Patch.fits_stateAt`: Every state of a run fits.
* `Script.mark_patched`, `Script.body_patched`: What is read back after
  patching.
* `Script.exists_edit_iff`: When an action is recorded for a line.
* `Script.turn_cases`: What the turn of a line of a script can be.
* `Script.stateBefore_patched`, `Script.last_patch`: The pass knows the lexical
  states of the patched script.
-/

namespace Rerun

open Text LexState

/-- A `DROP TABLE` is carried on in code only. -/
theorem Statement.continuesDrop_iff (lex : LexState) (body : List Char) :
    continuesDrop (lex == .code) body = true ↔ lex = .code ∧ continuesDrop true body = true := by
  simp only [continuesDrop, Bool.and_eq_true, beq_iff_eq, true_and, and_assoc]

namespace Patch

/-- The turn of a line that holds the guard of the bare head before it. -/
def guardLine (rules : Rules) (table : Option (List Char)) (content : List Char) : Turn :=
  { treated := mendLeading rules content
    kind := .createTable
    table
    guarded := false
    phase := .free }

/-- A line that the rules have nothing to say about. -/
def Idle (rules : Rules) (lex : LexState) (content : List Char) : Prop :=
  lex ≠ .code ∨ bodyOf content = [] ∨ Statement.isComment (bodyOf content) = true ∨
    Statement.kindOf (bodyOf content) = .other ∨
    Statement.kindOf (bodyOf content) = .dropTable ∧ rules.commentDrops = false

/-- A line of a `DROP TABLE` that is to be commented out: it opens the
    statement, or carries on one that is being commented out. -/
def Dropped (rules : Rules) (phase : Phase) (content : List Char) (table : Option (List Char)) :
    Prop :=
  Statement.kindOf (bodyOf content) = .dropTable ∧ rules.commentDrops = true ∧
      table = TableName.ofDrop? (bodyOf content) ∨
    phase = .dropping table ∧ Statement.continuesDrop true (bodyOf content) = true

/-- An idle line in code opens no statement, or a `DROP TABLE` that is to be
    left alone. -/
theorem Idle.kindOf {rules : Rules} {content : List Char} (h : Idle rules .code content) :
    Statement.kindOf (bodyOf content) = .other ∨
      Statement.kindOf (bodyOf content) = .dropTable ∧ rules.commentDrops = false := by
  rcases h with hlex | hempty | hcomment | hother | hdrop
  · exact absurd rfl hlex
  · rw [hempty]
    exact Or.inl rfl
  · exact Or.inl (Statement.kindOf_of_isComment hcomment)
  · exact Or.inl hother
  · exact Or.inr hdrop

theorem Idle.not_createTable {rules : Rules} {content : List Char} (h : Idle rules .code content) :
    Statement.kindOf (bodyOf content) ≠ .createTable := by
  intro hkind
  rcases h.kindOf with hother | ⟨hdrop, -⟩
  · rw [hkind] at hother
    cases hother
  · rw [hkind] at hdrop
    cases hdrop

/-- A line that continues nothing is idle, is dropped, or opens a
    `CREATE TABLE`. -/
theorem plain_cases (rules : Rules) (lex : LexState) (content : List Char)
    (next : Option (List Char)) :
    (Idle rules lex content ∧ plain rules lex content next = pass content) ∨
    (lex = .code ∧ Statement.kindOf (bodyOf content) = .dropTable ∧ rules.commentDrops = true ∧
      plain rules lex content next = drop (TableName.ofDrop? (bodyOf content)) content) ∨
    (lex = .code ∧ Statement.kindOf (bodyOf content) = .createTable ∧
      plain rules lex content next = create rules .code content next) := by
  -- The first gate passes lines over before their statement is looked at.
  by_cases hidle : lex ≠ .code ∨ (bodyOf content).isEmpty = true ∨
      Statement.isComment (bodyOf content) = true
  · refine Or.inl ⟨?_, by simp only [plain, if_pos hidle]⟩
    rw [List.isEmpty_iff] at hidle
    rcases hidle with h | h | h
    · exact Or.inl h
    · exact Or.inr (Or.inl h)
    · exact Or.inr (Or.inr (Or.inl h))
  · have hlex : lex = .code := Decidable.of_not_not fun h => hidle (Or.inl h)
    subst hlex
    cases hkind : Statement.kindOf (bodyOf content) with
    | other =>
        refine Or.inl ⟨Or.inr (Or.inr (Or.inr (Or.inl hkind))), ?_⟩
        simp only [plain, if_neg hidle, hkind]
    | createTable =>
        refine Or.inr (Or.inr ⟨rfl, rfl, ?_⟩)
        simp only [plain, if_neg hidle, hkind]
    | dropTable =>
        -- With the rule off, a `DROP TABLE` is a line like any other.
        by_cases hrule : rules.commentDrops = true
        · refine Or.inr (Or.inl ⟨rfl, rfl, hrule, ?_⟩)
          simp only [plain, if_neg hidle, hkind, if_pos hrule]
        · refine Or.inl ⟨Or.inr (Or.inr (Or.inr (Or.inr ⟨hkind, ?_⟩))), ?_⟩
          · exact Bool.eq_false_iff.mpr hrule
          · simp only [plain, if_neg hidle, hkind, if_neg hrule]

theorem treat_of_free {rules : Rules} {state : State} (h : state.phase = .free)
    (content : List Char) (next : Option (List Char)) :
    treat rules state content next = plain rules state.lex content next := by
  simp only [treat, h]

theorem treat_of_guarding {rules : Rules} {state : State} {table : Option (List Char)}
    (h : state.phase = .guarding table) (content : List Char) (next : Option (List Char)) :
    treat rules state content next = guardLine rules table content := by
  simp only [treat, h, guardLine]

/-- A line that carries on the `DROP TABLE` being commented out is commented
    out as well. -/
theorem treat_of_dropping {rules : Rules} {state : State} {table : Option (List Char)}
    (h : state.phase = .dropping table) (hlex : state.lex = .code) {content : List Char}
    (hgoes : Statement.continuesDrop true (bodyOf content) = true) (next : Option (List Char)) :
    treat rules state content next = drop table content := by
  have hcontinues := (Statement.continuesDrop_iff state.lex (bodyOf content)).mpr ⟨hlex, hgoes⟩
  simp only [treat, h, if_pos hcontinues]

/-- A line that continues a `DROP TABLE`, one that continues nothing, and one
    that holds a guard. Which of them a line is, is no matter of the rules. -/
theorem phase_cases (state : State) (content : List Char) (next : Option (List Char)) :
    (∃ table, state.phase = .dropping table ∧ state.lex = .code ∧
      Statement.continuesDrop true (bodyOf content) = true ∧
      ∀ rules, treat rules state content next = drop table content) ∨
    ((∀ table, state.phase ≠ .guarding table) ∧
      ∀ rules, treat rules state content next = plain rules state.lex content next) ∨
    (∃ table, state.phase = .guarding table ∧
      ∀ rules, treat rules state content next = guardLine rules table content) := by
  cases hphase : state.phase with
  | free =>
      exact Or.inr (Or.inl ⟨fun _ => Phase.noConfusion, fun _ => treat_of_free hphase _ _⟩)
  | dropping table =>
      by_cases hgoes : Statement.continuesDrop (state.lex == .code) (bodyOf content) = true
      · -- To carry on asks for code, so no invariant of the run is needed here.
        rcases (Statement.continuesDrop_iff _ _).mp hgoes with ⟨hlex, hbody⟩
        exact Or.inl ⟨table, rfl, hlex, hbody, fun _ => treat_of_dropping hphase hlex hbody _⟩
      · refine Or.inr (Or.inl ⟨fun _ => Phase.noConfusion, fun rules => ?_⟩)
        simp only [treat, hphase, if_neg hgoes]
  | guarding table =>
      exact Or.inr (Or.inr ⟨table, rfl, fun _ => treat_of_guarding hphase _ _⟩)

/-- What one turn can do. -/
theorem treat_cases (rules : Rules) (state : State) (content : List Char)
    (next : Option (List Char)) :
    ((∀ table, state.phase ≠ .guarding table) ∧ Idle rules state.lex content ∧
      treat rules state content next = pass content) ∨
    ((∀ table, state.phase ≠ .guarding table) ∧ state.lex = .code ∧
      ∃ table, Dropped rules state.phase content table ∧
        treat rules state content next = drop table content) ∨
    ((∀ table, state.phase ≠ .guarding table) ∧ state.lex = .code ∧
      Statement.kindOf (bodyOf content) = .createTable ∧
      treat rules state content next = create rules .code content next) ∨
    (∃ table, state.phase = .guarding table ∧
      treat rules state content next = guardLine rules table content) := by
  rcases phase_cases state content next with ⟨table, hphase, hlex, hgoes, heq⟩ |
    ⟨hphase, heq⟩ | ⟨table, hphase, heq⟩
  · refine Or.inr (Or.inl ⟨?_, hlex, table, Or.inr ⟨hphase, hgoes⟩, heq rules⟩)
    rw [hphase]
    exact fun _ => Phase.noConfusion
  · rw [heq rules]
    rcases plain_cases rules state.lex content next with ⟨hidle, hp⟩ |
      ⟨hlex, hkind, hrule, hp⟩ | ⟨hlex, hkind, hp⟩
    · exact Or.inl ⟨hphase, hidle, hp⟩
    · exact Or.inr (Or.inl ⟨hphase, hlex, _, Or.inl ⟨hkind, hrule, rfl⟩, hp⟩)
    · exact Or.inr (Or.inr (Or.inl ⟨hphase, hlex, hkind, hp⟩))
  · exact Or.inr (Or.inr (Or.inr ⟨table, hphase, heq rules⟩))

/-- After a `CREATE TABLE` a guard is waited for exactly if one stands on the
    next line. -/
theorem create_phase (rules : Rules) (content : List Char) (next : Option (List Char)) :
    (guardBelow? .code content next = none ∧
      (create rules .code content next).phase = .free) ∨
    (∃ table guard, guardBelow? .code content next = some guard ∧
      (create rules .code content next).phase = .guarding table) := by
  cases hbelow : guardBelow? .code content next with
  | none => exact Or.inl ⟨rfl, by simp [create, hbelow]⟩
  | some guard => exact Or.inr ⟨_, guard, rfl, by simp [create, hbelow]; rfl⟩

theorem create_phase_ne_dropping (rules : Rules) (content : List Char)
    (next table : Option (List Char)) :
    (create rules .code content next).phase ≠ .dropping table := by
  intro hdropping
  rcases create_phase rules content next with ⟨-, hfree⟩ | ⟨other, guard, -, hguarding⟩
  · rw [hfree] at hdropping
    cases hdropping
  · rw [hguarding] at hdropping
    cases hdropping

/-- A guard below counts after a bare head whose line ends in code. -/
theorem guardBelow?_eq_some_iff (content : List Char) (next : Option (List Char))
    (guard : Guard) :
    guardBelow? .code content next = some guard ↔
      Statement.isBareHead (bodyOf content) = true ∧ (code.advance content).last = .code ∧
        next.bind Guard.leading? = some guard := by
  unfold guardBelow?
  split
  · rename_i h
    simp only [h.1, h.2, true_and]
  · rename_i h
    constructor
    · intro hnone
      cases hnone
    · rintro ⟨hbare, hlast, -⟩
      exact absurd ⟨hbare, hlast⟩ h

/-- A state that fits the next line. A `DROP TABLE` is carried on in code
    only, and a guard is waited for in code and where one stands. -/
def State.Fits (state : State) (next : Option (List Char)) : Prop :=
  match state.phase with
  | .free => True
  | .dropping _ => state.lex = .code
  | .guarding _ => state.lex = .code ∧ ∃ guard, next.bind Guard.leading? = some guard

theorem State.Fits.of_guarding {state : State} {next table : Option (List Char)}
    (h : state.Fits next) (hphase : state.phase = .guarding table) :
    state.lex = .code ∧ ∃ guard, next.bind Guard.leading? = some guard := by
  unfold State.Fits at h
  rwa [hphase] at h

/-- A turn leaves a state that fits the next line. -/
theorem fits_next (rules : Rules) (state : State) (content : List Char)
    (next : Option (List Char)) :
    (state.next (treat rules state content next)).Fits next := by
  rcases treat_cases rules state content next with ⟨-, -, heq⟩ | ⟨-, hlex, table, -, heq⟩ |
    ⟨-, hlex, -, heq⟩ | ⟨table, -, heq⟩
  · rw [heq]
    trivial
  · rw [heq]
    -- The comment that is written ends in code, whether or not the statement does.
    have hcode : (state.next (drop table content)).lex = .code := by
      change (state.lex.advance (commentOut content)).last = .code
      rw [hlex]
      exact advance_commentOut content
    unfold State.Fits
    split
    · trivial
    · exact hcode
    · rename_i other hphase
      change (if _ then Phase.free else Phase.dropping table) = .guarding other at hphase
      split at hphase <;> cases hphase
  · rw [heq]
    rcases create_phase rules content next with ⟨-, hphase⟩ | ⟨other, guard, hbelow, hphase⟩
    · unfold State.Fits
      simp only [State.next, hphase]
    · -- The line ends in code as it was read, and so it does as it is written.
      rcases (guardBelow?_eq_some_iff _ _ _).mp hbelow with ⟨-, hlast, hguard⟩
      unfold State.Fits
      simp only [State.next, hphase]
      refine ⟨?_, guard, hguard⟩
      rw [hlex]
      exact (congrArg Effect.last (advance_guardCreate rules content _)).trans hlast
  · rw [heq]
    trivial

/-- A turn does not move the edges of its line. -/
theorem replaces_treat (rules : Rules) (state : State) (content : List Char)
    (next : Option (List Char)) :
    Replaces content (treat rules state content next).treated.text := by
  rcases treat_cases rules state content next with ⟨-, -, heq⟩ | ⟨-, -, table, -, heq⟩ |
    ⟨-, -, -, heq⟩ | ⟨table, -, heq⟩
  · rw [heq]
    exact Replaces.refl content
  · rw [heq]
    exact replaces_commentOut content
  · rw [heq]
    exact replaces_guardCreate rules content _
  · rw [heq]
    exact replaces_mendLeading rules content

/-- Only a line of a `DROP TABLE` is commented out, and it starts in code. -/
theorem treat_of_commentOut {rules : Rules} {state : State} {content : List Char}
    {next : Option (List Char)}
    (h : (treat rules state content next).treated.action = .commentOut) :
    state.lex = .code ∧ (treat rules state content next).treated.text = commentOut content := by
  rcases treat_cases rules state content next with ⟨-, -, heq⟩ | ⟨-, hlex, table, -, heq⟩ |
    ⟨-, -, hkind, heq⟩ | ⟨table, -, heq⟩
  · rw [heq] at h
    cases h
  · rw [heq]
    exact ⟨hlex, rfl⟩
  · rw [heq] at h
    exact absurd h (guardCreate_ne_commentOut rules content _)
  · rw [heq] at h
    exact absurd h (mendLeading_ne_commentOut rules content)

/-- A line that was not commented out has the effect it had before. -/
theorem advance_treat {rules : Rules} {state : State} {content : List Char}
    {next : Option (List Char)} (hfits : state.Fits (some content))
    (hkeep : (treat rules state content next).treated.action ≠ .commentOut) :
    state.lex.advance (treat rules state content next).treated.text =
      state.lex.advance content := by
  rcases treat_cases rules state content next with ⟨-, -, heq⟩ | ⟨-, -, table, -, heq⟩ |
    ⟨-, hlex, -, heq⟩ | ⟨table, hphase, heq⟩
  · rw [heq]
    rfl
  · rw [heq] at hkeep
    exact absurd rfl hkeep
  · rw [heq, hlex]
    exact advance_guardCreate rules content _
  · rw [heq, (hfits.of_guarding hphase).1]
    exact advance_mendLeading rules content

/-- A turn that changes its line amounts to an edit, and no other does. -/
theorem Turn.edit?_eq_some_iff (turn : Turn) (number : Nat) (content : List Char) (edit : Edit) :
    turn.edit? number content = some edit ↔ turn.treated.action ≠ .keep ∧
      edit = ⟨number, turn.treated.action, turn.kind, turn.table, content, turn.treated.text⟩ := by
  unfold Turn.edit?
  split
  · rename_i hkeep
    simp [hkeep]
  · rename_i hkeep
    simp [hkeep, eq_comm]

/-- The state of the pass before the line with the given index. -/
def stateAt (rules : Rules) (state : State) : List Line → Nat → State
  | [], _ => state
  | _ :: _, 0 => state
  | line :: rest, k + 1 =>
    stateAt rules (state.next (treat rules state line.content (rest.head?.map Line.content))) rest k

/-- The turn that a content has as the line with the given index. -/
def turnAt (rules : Rules) (state : State) (lines : List Line) (k : Nat) (content : List Char) :
    Turn :=
  treat rules (stateAt rules state lines k) content (lines[k + 1]?.map Line.content)

section Run

variable (rules : Rules) (state : State) (lines : List Line)

theorem stateAt_zero : stateAt rules state lines 0 = state := by
  cases lines <;> rfl

/-- The state before a line comes from the turn of the line before it. -/
theorem stateAt_succ {k : Nat} {line : Line} (h : lines[k]? = some line) :
    stateAt rules state lines (k + 1) =
      (stateAt rules state lines k).next (turnAt rules state lines k line.content) := by
  induction lines generalizing state k with
  | nil => cases h
  | cons first rest ih =>
      cases k with
      | zero =>
          -- What follows the first line is the head of the rest.
          cases h
          simp only [turnAt, stateAt, stateAt_zero, List.getElem?_cons_succ, List.head?_eq_getElem?]
      | succ k => exact ih _ h

/-- The lines of a run, by index. -/
theorem getElem?_run_lines (number k : Nat) :
    (run rules state number lines).lines[k]? = lines[k]?.map fun line =>
      ⟨(turnAt rules state lines k line.content).treated.text, line.ending⟩ := by
  induction lines generalizing state number k with
  | nil => rfl
  | cons first rest ih =>
      cases k with
      | zero =>
          simp only [run, turnAt, stateAt, List.getElem?_cons_zero, List.getElem?_cons_succ,
            Option.map_some, List.head?_eq_getElem?]
      | succ k => exact ih _ _ k

/-- The edits of a run, by index. -/
theorem mem_run_edits_iff (number : Nat) (edit : Edit) :
    edit ∈ (run rules state number lines).edits ↔ ∃ k line, lines[k]? = some line ∧
      (turnAt rules state lines k line.content).edit? (number + k) line.content = some edit := by
  induction lines generalizing state number with
  | nil => simp [run]
  | cons first rest ih =>
      -- The first line has index zero, and the others move up by one.
      simp only [run, List.mem_append, Option.mem_toList, ih]
      constructor
      · rintro (h | ⟨k, line, hline, h⟩)
        · refine ⟨0, first, rfl, ?_⟩
          simpa only [turnAt, stateAt, Nat.add_zero, List.getElem?_cons_succ,
            List.head?_eq_getElem?] using h
        · refine ⟨k + 1, line, hline, ?_⟩
          rw [show number + (k + 1) = number + 1 + k by omega]
          exact h
      · rintro ⟨k, line, hline, h⟩
        cases k with
        | zero =>
            cases hline
            refine Or.inl ?_
            simpa only [turnAt, stateAt, Nat.add_zero, List.getElem?_cons_succ,
              List.head?_eq_getElem?] using h
        | succ k =>
            refine Or.inr ⟨k, line, hline, ?_⟩
            rw [show number + 1 + k = number + (k + 1) by omega]
            exact h

/-- The lexical states of a run are those of the lines it has written. -/
theorem lex_stateAt (number k : Nat) :
    (stateAt rules state lines k).lex =
      afterLines state.lex (((run rules state number lines).lines.take k).map Line.content) := by
  induction lines generalizing state number k with
  | nil =>
      simp only [stateAt, run, List.take_nil, List.map_nil]
      rfl
  | cons first rest ih =>
      cases k with
      | zero => rfl
      | succ k => exact ih _ (number + 1) k

theorem last_run (number : Nat) :
    (run rules state number lines).last =
      afterLines state.lex ((run rules state number lines).lines.map Line.content) := by
  induction lines generalizing state number with
  | nil => rfl
  | cons first rest ih => exact ih _ (number + 1)

/-- Each line is written in the place of the one that was read. -/
theorem forall₂_run (number : Nat) :
    List.Forall₂ Line.Replaced lines (run rules state number lines).lines := by
  induction lines generalizing state number with
  | nil => exact List.Forall₂.nil
  | cons first rest ih =>
      exact List.Forall₂.cons ⟨replaces_treat rules state first.content _, rfl⟩ (ih _ (number + 1))

/-- Every state of a run fits the line it stands before. -/
theorem fits_stateAt (h : state.Fits (lines[0]?.map Line.content)) (k : Nat) :
    (stateAt rules state lines k).Fits (lines[k]?.map Line.content) := by
  induction lines generalizing state k with
  | nil => exact h
  | cons first rest ih =>
      cases k with
      | zero => exact h
      | succ k =>
          refine ih _ ?_ k
          rw [← List.head?_eq_getElem?]
          exact fits_next rules state first.content (rest.head?.map Line.content)

end Run

end Patch

namespace Script

/-- The lexical state in which the line with the given index starts. -/
def stateBefore (script : Script) (k : Nat) : LexState :=
  afterLines .code ((script.body.take k).map Line.content)

theorem stateBefore_succ {script : Script} {k : Nat} {line : Line}
    (h : script.body[k]? = some line) :
    script.stateBefore (k + 1) = ((script.stateBefore k).advance line.content).last := by
  simp only [stateBefore, List.take_add_one, h, Option.toList_some, List.map_append, List.map_cons,
    List.map_nil, afterLines, List.foldl_append, List.foldl_cons, List.foldl_nil]

/-- The script that patching writes. -/
def patched (rules : Rules) (script : Script) : Script :=
  ⟨(script.patch rules).text⟩

variable (rules : Rules) (script : Script)

theorem mark_patched : (script.patched rules).mark = script.mark :=
  (mark_body_rejoin (Patch.forall₂_run rules .start script.body 1)).1

theorem body_patched :
    (script.patched rules).body = (Patch.run rules .start 1 script.body).lines :=
  (mark_body_rejoin (Patch.forall₂_run rules .start script.body 1)).2

/-- The state of the pass before the line with the given index. -/
def passState (k : Nat) : Patch.State :=
  Patch.stateAt rules .start script.body k

/-- The turn of the line with the given index. -/
def turn (k : Nat) (content : List Char) : Patch.Turn :=
  Patch.turnAt rules .start script.body k content

/-- A line of the patched script is the one that its turn has written. -/
theorem getElem?_body_patched (k : Nat) :
    (script.patched rules).body[k]? = script.body[k]?.map fun line =>
      ⟨(script.turn rules k line.content).treated.text, line.ending⟩ := by
  rw [body_patched]
  exact Patch.getElem?_run_lines rules .start script.body 1 k

/-- An edit is made of a line and the turn that changed it. -/
theorem mem_edits_iff (edit : Edit) :
    edit ∈ (script.patch rules).edits ↔ ∃ k line, script.body[k]? = some line ∧
      (script.turn rules k line.content).treated.action ≠ .keep ∧
      edit = ⟨k + 1, (script.turn rules k line.content).treated.action,
        (script.turn rules k line.content).kind, (script.turn rules k line.content).table,
        line.content, (script.turn rules k line.content).treated.text⟩ := by
  refine (Patch.mem_run_edits_iff rules .start script.body 1 edit).trans ?_
  simp only [Patch.Turn.edit?_eq_some_iff, Nat.add_comm 1]
  rfl

theorem turn_of_commentOut {k : Nat} {content : List Char}
    (h : (script.turn rules k content).treated.action = .commentOut) :
    (script.passState rules k).lex = .code ∧
      (script.turn rules k content).treated.text = commentOut content :=
  Patch.treat_of_commentOut h

theorem passState_zero : script.passState rules 0 = .start :=
  Patch.stateAt_zero rules .start script.body

variable {script}

theorem passState_succ {k : Nat} {line : Line} (h : script.body[k]? = some line) :
    script.passState rules (k + 1) =
      (script.passState rules k).next (script.turn rules k line.content) :=
  Patch.stateAt_succ rules .start script.body h

theorem fits_passState {k : Nat} {line : Line} (h : script.body[k]? = some line) :
    (script.passState rules k).Fits (some line.content) := by
  have hfits := Patch.fits_stateAt rules .start script.body trivial k
  rwa [h] at hfits

/-- An action is recorded for a line exactly if the turn of the line took
    it. -/
theorem exists_edit_iff {k : Nat} {line : Line} (h : script.body[k]? = some line) {action : Action}
    (hne : action ≠ .keep) :
    (∃ edit ∈ (script.patch rules).edits, edit.line = k + 1 ∧ edit.action = action) ↔
      (script.turn rules k line.content).treated.action = action := by
  constructor
  · rintro ⟨edit, hedit, hnumber, hact⟩
    -- The number of an edit gives its line away.
    rcases (mem_edits_iff rules script edit).mp hedit with ⟨j, other, hj, -, rfl⟩
    rw [Nat.succ.inj hnumber, h] at hj
    cases hj
    rwa [Nat.succ.inj hnumber] at hact
  · intro hact
    refine ⟨_, (mem_edits_iff rules script _).mpr ⟨k, line, h, ?_, rfl⟩, rfl, hact⟩
    rw [hact]
    exact hne

/-- What the turn of a line can be. A line that is taken for a guard begins
    with one. -/
theorem turn_cases {k : Nat} {line : Line} (h : script.body[k]? = some line) :
    (Patch.Idle rules (script.passState rules k).lex line.content ∧
      script.turn rules k line.content = Patch.pass line.content) ∨
    ((script.passState rules k).lex = .code ∧
      ∃ table, Patch.Dropped rules (script.passState rules k).phase line.content table ∧
        script.turn rules k line.content = Patch.drop table line.content) ∨
    ((script.passState rules k).lex = .code ∧
      Statement.kindOf (bodyOf line.content) = .createTable ∧
      script.turn rules k line.content =
        Patch.create rules .code line.content (script.body[k + 1]?.map Line.content)) ∨
    ((script.passState rules k).lex = .code ∧
      ∃ table guard, Guard.leading? line.content = some guard ∧
        script.turn rules k line.content = Patch.guardLine rules table line.content) := by
  rcases Patch.treat_cases rules (script.passState rules k) line.content
    (script.body[k + 1]?.map Line.content) with ⟨-, hidle, heq⟩ | ⟨-, hlex, table, hdrop, heq⟩ |
    ⟨-, hlex, hkind, heq⟩ | ⟨table, hphase, heq⟩
  · exact Or.inl ⟨hidle, heq⟩
  · exact Or.inr (Or.inl ⟨hlex, table, hdrop, heq⟩)
  · exact Or.inr (Or.inr (Or.inl ⟨hlex, hkind, heq⟩))
  · -- The invariant of the run puts a guard where one is waited for.
    rcases (fits_passState rules h).of_guarding hphase with ⟨hlex, guard, hguard⟩
    exact Or.inr (Or.inr (Or.inr ⟨hlex, table, guard, hguard, heq⟩))

variable (script)

/-- The pass knows the state of a fresh lexer of the patched script. -/
theorem stateBefore_patched (k : Nat) :
    (script.patched rules).stateBefore k = (script.passState rules k).lex := by
  rw [stateBefore, body_patched]
  exact (Patch.lex_stateAt rules .start script.body 1 k).symm

/-- The pass ends in the state that the patched script ends in. -/
theorem last_patch :
    (script.patch rules).last = (script.patched rules).stateBefore script.body.length := by
  have hlength := (Patch.forall₂_run rules .start script.body 1).length_eq
  rw [stateBefore, body_patched, hlength, List.take_length]
  exact Patch.last_run rules .start script.body 1

end Script

end Rerun
