import Rerun.Proofs.Idempotence

/-!
# Counting Guards

Patching reports how many `CREATE TABLE` statements already had a proper
guard. A second pass over the patched script reports those and one more for
each guard that the first pass has inserted or mended: no statement is counted
twice, and none that was given a guard is missed.

The two counts are taken in different places. A statement is counted on the
line of its head, while a guard that stands on the next line is mended there.
So the count of the second pass runs ahead of the edits of the first by one
line, and `State.owed` is the difference: the guard that the head before has
been counted for and that is yet to be mended. With it the balance holds after
each turn (`guarded_treat`), and it carries through a run (`guarded_run`).

## Main definitions

* `Patch.Turn.counted`: A line that is counted as properly guarded.
* `Patch.Turn.gain`: The guards that a turn has inserted or mended.
* `Patch.State.owed`: The guard that the next line is to have mended.

## Theorems

* `Patch.guarded_create`: The balance of a line that opens a `CREATE TABLE`.
* `Patch.guarded_treat`: The balance of one turn.
* `Patch.guarded_run`: The balance of a run.
* `Script.guards_conserved`: The guards that a second pass counts.
-/

namespace Rerun

open Text LexState

namespace Patch

/-- One for a line that opens a `CREATE TABLE` with a proper guard. -/
def Turn.counted (turn : Turn) : Nat :=
  if turn.guarded then 1 else 0

/-- One for a line on which a guard was inserted or mended. -/
def Turn.gain (turn : Turn) : Nat :=
  if turn.treated.action = .insertGuard ∨ turn.treated.action = .fixTypo then 1 else 0

/-- One if the next line holds the guard of the head before it, and the guard
    is going to be mended. -/
def State.owed (rules : Rules) (state : State) (next : Option (List Char)) : Nat :=
  match state.phase with
  | .guarding _ => if next.any fun c => (mendLeading rules c).action = .fixTypo then 1 else 0
  | _ => 0

variable {rules : Rules}

theorem State.owed_of_not_guarding {state : State} (h : ∀ table, state.phase ≠ .guarding table)
    (next : Option (List Char)) : state.owed rules next = 0 := by
  unfold State.owed
  cases hphase : state.phase with
  | free => rfl
  | dropping table => rfl
  | guarding table => exact absurd hphase (h table)

/-- The turn of a line that holds a guard gains what was owed. -/
theorem gain_guardLine {state : State} {table : Option (List Char)}
    (hphase : state.phase = .guarding table) (other : Option (List Char)) (content : List Char) :
    (guardLine rules other content).gain = state.owed rules (some content) := by
  have hno := mendLeading_ne_insertGuard rules content
  simp only [Turn.gain, guardLine, State.owed, hphase, Option.any_some, hno, false_or,
    decide_eq_true_eq]

/-- The guard below a head is counted by the second pass if it was proper or
    has been mended. -/
theorem counted_below {content c : List Char} {guard : Guard}
    (hbelow : guardBelow? .code content (some c) = some guard) :
    (create rules .code content (some (mendLeading rules c).text)).counted =
      (create rules .code content (some c)).counted +
        if (mendLeading rules c).action = .fixTypo then 1 else 0 := by
  rcases (guardBelow?_eq_some_iff _ _ _).mp hbelow with ⟨hbare, hlast, hguard⟩
  rw [Option.bind_some] at hguard
  rcases mendLeading_cases rules hguard with ⟨-, heq⟩ | ⟨htypo, -, heq⟩
  · rw [heq]
    rfl
  · -- The misspelled guard did not count, and the mended one does.
    have hmended := (guardBelow?_eq_some_iff content (some (guard.mend c)) _).mpr
      ⟨hbare, hlast, Guard.leading?_mend hguard⟩
    simp only [heq, Turn.counted, create, hbelow, hmended, Option.some_or, Option.any_some, htypo]
    rfl

/-- Where no guard stands below, a `CREATE TABLE` is counted exactly if its own
    line has a proper guard. -/
theorem guarded_create_iff {content : List Char} {next : Option (List Char)}
    (hbelow : guardBelow? .code content next = none) :
    (create rules .code content next).guarded = true ↔ Statement.IsGuarded (bodyOf content) := by
  simp only [create, hbelow, Option.none_or, Option.any_eq_true, beq_iff_eq, Statement.IsGuarded]

theorem gain_of_keep {turn : Turn} (h : turn.treated.action = .keep) : turn.gain = 0 := by
  simp [Turn.gain, h]

/-- The second pass counts a `CREATE TABLE` that had a proper guard, or was
    given one. -/
theorem counted_create {content : List Char} {next next' : Option (List Char)}
    (hkind : Statement.kindOf (bodyOf content) = .createTable)
    (hbelow : guardBelow? .code content next = none)
    (hbelow' : guardBelow? .code content next' = none) :
    let turn := create rules .code content next
    (create rules .code turn.treated.text next').counted = turn.counted + turn.gain := by
  intro turn
  rcases (Statement.kindOf_eq_createTable_iff _).mp hkind with ⟨head, rest, hhead⟩
  by_cases hkeep : turn.treated.action = .keep
  · have htext : turn.treated.text = content :=
      congrArg Treated.text (guardCreate_of_keep hhead hkeep)
    have hsame : (create rules .code content next').guarded = turn.guarded := by
      rw [Bool.eq_iff_iff, guarded_create_iff hbelow', guarded_create_iff hbelow]
    rw [htext, gain_of_keep hkeep, Turn.counted, hsame]
    rfl
  · -- A line that was changed had no proper guard, and has one now.
    have hwritten : Statement.IsGuarded (bodyOf turn.treated.text) :=
      isGuarded_guardCreate hhead hkeep
    have hbefore : turn.guarded ≠ true := by
      intro hguarded
      refine hkeep ?_
      have hkept := guardCreate_of_isGuarded rules (guardBelow? .code content next).isSome
        ((guarded_create_iff hbelow).mp hguarded)
      exact congrArg Treated.action hkept
    have hnone : guardBelow? .code turn.treated.text next' = none := by
      have hbare := Statement.not_isBareHead_of_isGuarded hwritten
      simp only [guardBelow?, hbare, Bool.false_eq_true, false_and, if_false]
    have hgain : turn.gain = 1 := by
      have hout : turn.treated.action ≠ .commentOut := guardCreate_ne_commentOut rules content _
      cases haction : turn.treated.action with
      | keep => exact absurd haction hkeep
      | commentOut => exact absurd haction hout
      | insertGuard => simp [Turn.gain, haction]
      | fixTypo => simp [Turn.gain, haction]
    rw [Turn.counted, Turn.counted, if_pos ((guarded_create_iff hnone).mpr hwritten),
      if_neg hbefore, hgain]

/-- The balance of a line that opens a `CREATE TABLE`. -/
theorem guarded_create (state : State) {content : List Char} (next after : Option (List Char))
    (hkind : Statement.kindOf (bodyOf content) = .createTable) :
    let turn := create rules .code content next
    (create rules .code turn.treated.text
        (next.map fun c => (treat rules (state.next turn) c after).treated.text)).counted =
      turn.counted + turn.gain + (state.next turn).owed rules next := by
  intro turn
  rcases create_phase rules content next with ⟨hbelow, hphase⟩ | ⟨table, guard, hbelow, hphase⟩
  · -- No guard stands below, and none does once the next line is written.
    have hwritten := @guardBelow?_written rules state content next after
    rw [hbelow] at hwritten
    have hbelow' := Option.not_isSome_iff_eq_none.mp (Bool.eq_false_iff.mp hwritten)
    have hfree : (state.next turn).phase = .free := hphase
    have hnone : ∀ table, (state.next turn).phase ≠ .guarding table := by
      rw [hfree]
      exact fun _ => Phase.noConfusion
    rw [State.owed_of_not_guarding hnone, Nat.add_zero]
    exact counted_create hkind hbelow hbelow'
  · -- The guard below is all there is to count, now or once it is mended.
    rcases (Statement.kindOf_eq_createTable_iff _).mp hkind with ⟨head, rest, hhead⟩
    have hkeep : turn.treated.action = .keep := action_of_guardBelow? hbelow
    have htext : turn.treated.text = content :=
      congrArg Treated.text (guardCreate_of_keep hhead hkeep)
    have hguarding : (state.next turn).phase = .guarding table := hphase
    cases next with
    | none => simp [guardBelow?] at hbelow
    | some c =>
        rw [htext, gain_of_keep hkeep, Nat.add_zero, Option.map_some,
          treat_of_guarding hguarding]
        simp only [State.owed, hguarding, Option.any_some, decide_eq_true_eq]
        exact counted_below hbelow

/-- The balance of one turn: what the second pass counts is what the first has
    counted and gained, with the guard that was owed before the line and the
    one that is owed after it. -/
theorem guarded_treat {first second : State} (hecho : first.Echoes second) (content : List Char)
    (next after : Option (List Char)) :
    let turn := treat rules first content next
    let again := treat rules second turn.treated.text
      (next.map fun c => (treat rules (first.next turn) c after).treated.text)
    again.counted + first.owed rules (some content) =
      turn.counted + turn.gain + (first.next turn).owed rules next := by
  intro turn again
  rcases echo_cases hecho content next
      (next.map fun c => (treat rules (first.next turn) c after).treated.text) with
    ⟨hphase, hturn, hagain⟩ | ⟨hphase, table, hturn, hagain⟩ | ⟨hphase, hkind, hturn, hagain⟩ |
    ⟨table, table', hphase, hturn, hagain⟩
  · have hturn : turn = pass content := hturn
    have hagain : again = pass content := hagain
    rw [hagain, hturn, State.owed_of_not_guarding hphase]
    rfl
  · have hturn : turn = drop table content := hturn
    have hagain : again = pass (commentOut content) := hagain
    have hnone : ∀ other, (first.next (drop table content)).phase ≠ .guarding other := by
      intro other hguarding
      change (if _ then Phase.free else Phase.dropping table) = .guarding other at hguarding
      split at hguarding <;> cases hguarding
    rw [hagain, hturn, State.owed_of_not_guarding hphase, State.owed_of_not_guarding hnone]
    rfl
  · have hturn : turn = create rules .code content next := hturn
    have hagain : again = create rules .code turn.treated.text
        (next.map fun c => (treat rules (first.next turn) c after).treated.text) := hagain
    rw [State.owed_of_not_guarding hphase, Nat.add_zero, hagain, hturn]
    exact guarded_create first next after hkind
  · have hturn : turn = guardLine rules table content := hturn
    have hagain : again = guardLine rules table' turn.treated.text := hagain
    have hnone : ∀ other, (first.next (guardLine rules table content)).phase ≠ .guarding other :=
      fun _ => Phase.noConfusion
    rw [hagain, hturn, gain_guardLine hphase, State.owed_of_not_guarding hnone]
    rfl

/-- The line that a run writes first. -/
theorem head?_run (state : State) (number : Nat) (lines : List Line) :
    (run rules state number lines).lines.head?.map Line.content =
      (lines.head?.map Line.content).map fun c =>
        (treat rules state c (lines.tail.head?.map Line.content)).treated.text := by
  cases lines <;> rfl

/-- An edit reports what its turn has gained. -/
theorem gain_edit? (turn : Turn) (number : Nat) (content : List Char) :
    (turn.edit? number content).toList.countP (fun edit => edit.action == .insertGuard) +
        (turn.edit? number content).toList.countP (fun edit => edit.action == .fixTypo) =
      turn.gain := by
  cases haction : turn.treated.action <;> simp [Turn.edit?, Turn.gain, haction]

/-- The balance of a run: what the second pass counts on the lines that the
    first has written is what the first has counted, and one more for each
    guard that it has inserted or mended. -/
theorem guarded_run {first second : State} (hecho : first.Echoes second) (number number' : Nat)
    (lines : List Line) (hfits : first.Fits (lines.head?.map Line.content)) :
    let result := run rules first number lines
    (run rules second number' result.lines).guarded +
        first.owed rules (lines.head?.map Line.content) =
      result.guarded + (result.edits.countP (fun edit => edit.action == .insertGuard) +
        result.edits.countP fun edit => edit.action == .fixTypo) := by
  induction lines generalizing first second number number' with
  | nil =>
      have howed : first.owed rules none = 0 := by
        unfold State.owed
        split <;> rfl
      simp only [run, List.head?_nil, Option.map_none, howed, List.countP_nil]
  | cons line rest ih =>
      let turn := treat rules first line.content (rest.head?.map Line.content)
      let tail := run rules (first.next turn) (number + 1) rest
      let again := treat rules second turn.treated.text (tail.lines.head?.map Line.content)
      -- The second pass looks ahead at the next line as the first one writes it.
      have hahead : again = treat rules second turn.treated.text
          ((rest.head?.map Line.content).map fun c => (treat rules (first.next turn) c
            (rest.tail.head?.map Line.content)).treated.text) :=
        congrArg (treat rules second turn.treated.text) (head?_run _ _ rest)
      have hbalance : again.counted + first.owed rules (some line.content) =
          turn.counted + turn.gain +
            (first.next turn).owed rules (rest.head?.map Line.content) := by
        rw [hahead]
        exact guarded_treat hecho line.content _ _
      have hnext : (first.next turn).Echoes (second.next again) := by
        rw [hahead]
        exact (echo_treat rules hecho hfits _ _).2
      have htail : (run rules (second.next again) (number' + 1) tail.lines).guarded +
          (first.next turn).owed rules (rest.head?.map Line.content) = tail.guarded +
            (tail.edits.countP (fun edit => edit.action == .insertGuard) +
              tail.edits.countP fun edit => edit.action == .fixTypo) :=
        ih hnext (number + 1) (number' + 1) (fits_next rules first line.content _)
      have hgain := gain_edit? turn number line.content
      change again.counted + (run rules (second.next again) (number' + 1) tail.lines).guarded +
          first.owed rules (some line.content) =
        turn.counted + tail.guarded +
          (((turn.edit? number line.content).toList ++ tail.edits).countP _ +
            ((turn.edit? number line.content).toList ++ tail.edits).countP _)
      rw [List.countP_append, List.countP_append]
      omega

end Patch

namespace Script

/-- Guards are conserved. A second pass counts as already guarded what the
    first has counted, together with every guard that the first has inserted
    and every one that it has mended. -/
theorem guards_conserved (rules : Rules) (script : Script) :
    ((script.patched rules).patch rules).guarded =
      (script.patch rules).guarded + (script.patch rules).count .insertGuard +
        (script.patch rules).count .fixTypo := by
  have hecho : Patch.State.start.Echoes .start := ⟨rfl, rfl⟩
  -- Nothing is owed before the first line.
  have hrun : (Patch.run rules .start 1 (Patch.run rules .start 1 script.body).lines).guarded + 0 =
      (script.patch rules).guarded +
        ((script.patch rules).count .insertGuard + (script.patch rules).count .fixTypo) :=
    Patch.guarded_run hecho 1 1 script.body trivial
  rw [← body_patched] at hrun
  exact hrun.trans (Nat.add_assoc _ _ _).symm

end Script

end Rerun
