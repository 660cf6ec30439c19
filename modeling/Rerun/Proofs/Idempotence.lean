import Rerun.Proofs.Turns

/-!
# Patching Twice

A patched script is a fixed point: patching it again changes no line, records
no edit and ends in the same lexical state.

The second pass is compared with the first, line by line. Its states *echo*
those of the first pass: the lexical state is the same, because both passes
follow the text that the first one writes, and a guard is waited for on the
same lines. What differs is that the second pass never comments out, so where
the first pass was carrying on a `DROP TABLE` the second one is free.

The step of the simulation is `echo_treat`. Only a `CREATE TABLE` needs more
than its own line there. It waits for a guard if one stands on the next line,
and the second pass sees that line as written. `leading?_treat` says that
writing a line does not put a guard where none was.

## Main definitions

* `Patch.State.Echoes`: A state of the second pass that matches one of the
  first.

## Theorems

* `Patch.leading?_treat`: No guard appears at the start of a line.
* `Patch.create_again`: A `CREATE TABLE` is left alone by the second pass.
* `Patch.echo_cases`: The turns of a line in the two passes.
* `Patch.echo_treat`: The second pass leaves a written line alone.
* `Script.echoes`: The states of the two passes match throughout.
* `Script.patch_patched`: Patching is idempotent.
-/

namespace Rerun

open Text LexState

/-- A guard that opens a line is mended once. -/
theorem mendLeading_mendLeading (rules : Rules) {content : List Char} {guard : Guard}
    (h : Guard.leading? content = some guard) :
    mendLeading rules (mendLeading rules content).text =
      .kept (mendLeading rules content).text := by
  rcases leading?_mendLeading rules h with ⟨again, hagain, hno⟩
  rcases mendLeading_cases rules hagain with ⟨-, heq⟩ | ⟨htypo, hfix, -⟩
  · exact heq
  · exact absurd ⟨htypo, hfix⟩ hno

namespace Patch

variable {rules : Rules}

theorem plain_of_idle {lex : LexState} {content : List Char} (h : Idle rules lex content)
    (next : Option (List Char)) : plain rules lex content next = pass content := by
  rcases plain_cases rules lex content next with ⟨-, heq⟩ | ⟨rfl, hkind, hrule, -⟩ |
    ⟨rfl, hkind, -⟩
  · exact heq
  · rcases h.kindOf with hother | ⟨-, hoff⟩
    · rw [hkind] at hother
      cases hother
    · rw [hrule] at hoff
      cases hoff
  · exact absurd hkind h.not_createTable

theorem plain_of_createTable {content : List Char}
    (h : Statement.kindOf (bodyOf content) = .createTable) (next : Option (List Char)) :
    plain rules .code content next = create rules .code content next := by
  rcases plain_cases rules .code content next with ⟨hidle, -⟩ | ⟨-, hdrop, -⟩ | ⟨-, -, heq⟩
  · exact absurd h hidle.not_createTable
  · rw [h] at hdrop
    cases hdrop
  · exact heq

/-- A bare head with a guard below it is left as it is. -/
theorem action_of_guardBelow? {content : List Char} {next : Option (List Char)} {guard : Guard}
    (h : guardBelow? .code content next = some guard) :
    (create rules .code content next).treated.action = .keep := by
  have hbare := ((guardBelow?_eq_some_iff _ _ _).mp h).1
  have hnone := Statement.guardOf?_of_isBareHead hbare
  rw [Statement.isBareHead, Option.any_eq_true] at hbare
  rcases hbare with ⟨⟨head, rest⟩, hhead, -⟩
  rw [Statement.guardOf?_of_createHead? hhead] at hnone
  change (guardCreate rules content (guardBelow? .code content next).isSome).action = .keep
  rcases guardCreate_cases rules (guardBelow? .code content next).isSome hhead with
    ⟨_, _, _, heq⟩ | ⟨_, hfind, _⟩ | ⟨_, _, heq⟩ | ⟨_, hfollows, _⟩
  · rw [heq]; rfl
  · rw [hnone] at hfind
    cases hfind
  · rw [heq]; rfl
  · rw [h] at hfollows
    cases hfollows

/-- No guard appears at the start of a line that was not taken for one. -/
theorem leading?_treat {state : State} {content : List Char} (next : Option (List Char))
    (hphase : ∀ table, state.phase ≠ .guarding table) (h : Guard.leading? content = none) :
    Guard.leading? (treat rules state content next).treated.text = none := by
  -- A line that a guard opens begins with an I.
  have hletter : ∀ {u : Char} {line : List Char}, Keyword.Initial u (bodyOf line) → u ≠ 'I' →
      Guard.leading? line = none := by
    intro u line hu hne
    rw [Option.eq_none_iff_forall_ne_some]
    intro guard hguard
    exact hne (hu.unique (Statement.initial_of_leading? hguard))
  rcases treat_cases rules state content next with ⟨-, -, heq⟩ | ⟨-, -, table, -, heq⟩ |
    ⟨-, -, hkind, heq⟩ | ⟨table, hguard, -⟩
  · rw [heq]
    exact h
  · rw [heq]
    exact hletter ⟨'-', _, bodyOf_commentOut content, rfl⟩ (by decide)
  · rw [heq]
    exact hletter (Statement.initial_of_createTable (kindOf_guardCreate rules _ hkind)) (by decide)
  · exact absurd hguard (hphase table)

/-- A phase of the second pass that matches one of the first: a guard is
    waited for where one was, and nothing else is carried on. -/
def Phase.Echoes : Phase → Phase → Prop
  | .guarding _, second => ∃ table, second = .guarding table
  | _, second => second = .free

/-- A state of the second pass that matches one of the first. -/
structure State.Echoes (first second : State) : Prop where
  lex : second.lex = first.lex
  phase : first.phase.Echoes second.phase

theorem Phase.Echoes.free {first second : Phase} (h : first.Echoes second)
    (hfirst : ∀ table, first ≠ .guarding table) : second = .free := by
  cases first with
  | free => exact h
  | dropping table => exact h
  | guarding table => exact absurd rfl (hfirst table)

/-- A `CREATE TABLE` is left alone by the second pass, which waits for a
    guard if the first one did. -/
theorem create_again {content : List Char} {next next' : Option (List Char)}
    (hkind : Statement.kindOf (bodyOf content) = .createTable)
    (hnext : (guardBelow? .code content next').isSome = (guardBelow? .code content next).isSome) :
    let written := (create rules .code content next).treated.text
    (create rules .code written next').treated = .kept written ∧
      (create rules .code content next).phase.Echoes (create rules .code written next').phase := by
  intro written
  rcases (Statement.kindOf_eq_createTable_iff _).mp hkind with ⟨head, rest, hhead⟩
  by_cases hkeep : (create rules .code content next).treated.action = .keep
  · -- A line that was kept is seen as it was, so only the line below matters.
    have hwritten : written = content := congrArg Treated.text (guardCreate_of_keep hhead hkeep)
    rw [hwritten]
    constructor
    · change guardCreate rules content (guardBelow? .code content next').isSome = .kept content
      rw [hnext]
      exact guardCreate_of_keep hhead hkeep
    · rcases create_phase rules content next with ⟨hbelow, hphase⟩ |
        ⟨table, guard, hbelow, hphase⟩
      · rcases create_phase rules content next' with ⟨-, hphase'⟩ | ⟨-, guard', hbelow', -⟩
        · rw [hphase, hphase']
          rfl
        · rw [hbelow, hbelow'] at hnext
          cases hnext
      · rcases create_phase rules content next' with ⟨hbelow', -⟩ | ⟨table', -, -, hphase'⟩
        · rw [hbelow, hbelow'] at hnext
          cases hnext
        · rw [hphase, hphase']
          exact ⟨table', rfl⟩
  · -- A line that was changed has its guard, so it is no bare head.
    have hguarded : Statement.IsGuarded (bodyOf written) := isGuarded_guardCreate hhead hkeep
    refine ⟨guardCreate_of_isGuarded rules _ hguarded, ?_⟩
    have hphase' : (create rules .code written next').phase = .free := by
      rcases create_phase rules written next' with ⟨-, h⟩ | ⟨-, guard', hbelow', -⟩
      · exact h
      · have hbare := ((guardBelow?_eq_some_iff _ _ _).mp hbelow').1
        rw [Statement.not_isBareHead_of_isGuarded hguarded] at hbare
        cases hbare
    have hphase : (create rules .code content next).phase = .free := by
      rcases create_phase rules content next with ⟨-, h⟩ | ⟨-, guard, hbelow, -⟩
      · exact h
      · exact absurd (action_of_guardBelow? hbelow) hkeep
    rw [hphase, hphase']
    rfl

/-- A `CREATE TABLE` has a guard below it after the next line was written if
    it had one before. -/
theorem guardBelow?_written (state : State) (content : List Char)
    (next after : Option (List Char)) :
    let later := state.next (create rules .code content next)
    (guardBelow? .code content
        (next.map fun c => (treat rules later c after).treated.text)).isSome =
      (guardBelow? .code content next).isSome := by
  intro later
  by_cases hbare : Statement.isBareHead (bodyOf content) ∧ (code.advance content).last = .code
  · simp only [guardBelow?, if_pos hbare]
    cases next with
    | none => rfl
    | some c =>
        simp only [Option.map_some, Option.bind_some]
        rcases create_phase rules content (some c) with ⟨hbelow, hphase⟩ |
          ⟨table, guard, hbelow, hphase⟩
        · -- The pass is not waiting for a guard, so it does not write one.
          have hnone : Guard.leading? c = none := by
            simpa only [guardBelow?, if_pos hbare, Option.bind_some] using hbelow
          rw [hnone, leading?_treat after _ hnone]
          intro table
          change (create rules .code content (some c)).phase ≠ _
          rw [hphase]
          exact Phase.noConfusion
        · -- The pass is waiting for the guard, and mending keeps it.
          have hsome : Guard.leading? c = some guard := by
            simpa only [guardBelow?, if_pos hbare, Option.bind_some] using hbelow
          have hlater : treat rules later c after = guardLine rules table c :=
            treat_of_guarding hphase c after
          rcases leading?_mendLeading rules hsome with ⟨again, hagain, -⟩
          rw [hlater, hsome]
          change (Guard.leading? (mendLeading rules c).text).isSome = true
          rw [hagain]
          rfl
  · simp only [guardBelow?, if_neg hbare]

/-- The turn of a line in the second pass is of the same sort as in the first,
    except that a line that was commented out passes. -/
theorem echo_cases {first second : State} (hecho : first.Echoes second) (content : List Char)
    (next next' : Option (List Char)) :
    let turn := treat rules first content next
    let again := treat rules second turn.treated.text next'
    ((∀ table, first.phase ≠ .guarding table) ∧ turn = pass content ∧ again = pass content) ∨
    ((∀ table, first.phase ≠ .guarding table) ∧
      ∃ table, turn = drop table content ∧ again = pass (commentOut content)) ∨
    ((∀ table, first.phase ≠ .guarding table) ∧
      Statement.kindOf (bodyOf content) = .createTable ∧
      turn = create rules .code content next ∧
      again = create rules .code turn.treated.text next') ∨
    (∃ table table', first.phase = .guarding table ∧ turn = guardLine rules table content ∧
      again = guardLine rules table' turn.treated.text) := by
  intro turn again
  rcases treat_cases rules first content next with ⟨hphase, hidle, heq⟩ |
    ⟨hphase, hlex, table, -, heq⟩ | ⟨hphase, hlex, hkind, heq⟩ | ⟨table, hphase, heq⟩
  · have hturn : turn = pass content := heq
    refine Or.inl ⟨hphase, hturn, ?_⟩
    change treat rules second turn.treated.text next' = pass content
    rw [hturn, treat_of_free (hecho.phase.free hphase), hecho.lex]
    exact plain_of_idle hidle _
  · -- The second pass sees a comment and carries on nothing.
    have hturn : turn = drop table content := heq
    refine Or.inr (Or.inl ⟨hphase, table, hturn, ?_⟩)
    change treat rules second turn.treated.text next' = pass (commentOut content)
    rw [hturn, treat_of_free (hecho.phase.free hphase)]
    exact plain_of_idle (Or.inr (Or.inr (Or.inl (isComment_commentOut content)))) _
  · have hturn : turn = create rules .code content next := heq
    refine Or.inr (Or.inr (Or.inl ⟨hphase, hkind, hturn, ?_⟩))
    change treat rules second turn.treated.text next' = _
    rw [treat_of_free (hecho.phase.free hphase), hecho.lex, hlex]
    refine plain_of_createTable ?_ _
    rw [hturn]
    exact kindOf_guardCreate rules _ hkind
  · -- Both passes wait for the guard of the head before.
    have hsecond := hecho.phase
    rw [hphase] at hsecond
    rcases hsecond with ⟨table', hsecond⟩
    exact Or.inr (Or.inr (Or.inr ⟨table, table', hphase, heq, treat_of_guarding hsecond _ _⟩))

variable (rules) in
/-- The second pass leaves a line alone that the first one has written. -/
theorem echo_treat {first second : State} (hecho : first.Echoes second) {content : List Char}
    (hfits : first.Fits (some content)) (next after : Option (List Char)) :
    let turn := treat rules first content next
    let again := treat rules second turn.treated.text
      (next.map fun c => (treat rules (first.next turn) c after).treated.text)
    again.treated = .kept turn.treated.text ∧ (first.next turn).Echoes (second.next again) := by
  intro turn again
  -- The lexical states agree as soon as the line is left alone.
  suffices h : again.treated = .kept turn.treated.text ∧ turn.phase.Echoes again.phase by
    refine ⟨h.1, ?_, h.2⟩
    change (second.lex.advance again.treated.text).last = (first.lex.advance turn.treated.text).last
    rw [h.1, hecho.lex]
    rfl
  rcases echo_cases hecho content next
      (next.map fun c => (treat rules (first.next turn) c after).treated.text) with
    ⟨-, hturn, hagain⟩ | ⟨-, table, hturn, hagain⟩ | ⟨-, hkind, hturn, hagain⟩ |
    ⟨table, table', hphase, hturn, hagain⟩
  · have hturn : turn = pass content := hturn
    have hagain : again = pass content := hagain
    rw [hagain, hturn]
    exact ⟨rfl, rfl⟩
  · have hturn : turn = drop table content := hturn
    have hagain : again = pass (commentOut content) := hagain
    rw [hagain, hturn]
    refine ⟨rfl, ?_⟩
    change (if _ then Phase.free else Phase.dropping table).Echoes .free
    split <;> rfl
  · have hturn : turn = create rules .code content next := hturn
    have hagain : again = create rules .code turn.treated.text
        (next.map fun c => (treat rules (first.next turn) c after).treated.text) := hagain
    rw [hagain, hturn]
    exact create_again hkind (guardBelow?_written first content next after)
  · have hturn : turn = guardLine rules table content := hturn
    have hagain : again = guardLine rules table' turn.treated.text := hagain
    rcases (hfits.of_guarding hphase).2 with ⟨guard, hguard⟩
    rw [hagain, hturn]
    exact ⟨mendLeading_mendLeading rules hguard, rfl⟩

end Patch

namespace Script

variable (rules : Rules) (script : Script)

/-- The step of the simulation, for a line of a script. -/
theorem echo_turn {k : Nat} {line : Line} (h : script.body[k]? = some line)
    (hecho : (script.passState rules k).Echoes ((script.patched rules).passState rules k)) :
    let written := (script.turn rules k line.content).treated.text
    ((script.patched rules).turn rules k written).treated = .kept written ∧
      (script.passState rules (k + 1)).Echoes ((script.patched rules).passState rules (k + 1)) := by
  intro written
  have hline : (script.patched rules).body[k]? = some ⟨written, line.ending⟩ := by
    rw [getElem?_body_patched, h]
    rfl
  -- The second pass looks ahead at the next line as the first one writes it.
  have hnext : (script.patched rules).body[k + 1]?.map Line.content =
      (script.body[k + 1]?.map Line.content).map fun c =>
        (Patch.treat rules (script.passState rules (k + 1)) c
          (script.body[k + 2]?.map Line.content)).treated.text := by
    rw [getElem?_body_patched, Option.map_map, Option.map_map]
    rfl
  have hstep := Patch.echo_treat rules hecho (fits_passState rules h)
    (script.body[k + 1]?.map Line.content) (script.body[k + 2]?.map Line.content)
  rw [passState_succ rules h] at hnext
  rw [passState_succ rules h, passState_succ rules hline]
  have hturn : (script.patched rules).turn rules k written =
      Patch.treat rules ((script.patched rules).passState rules k) written
        ((script.patched rules).body[k + 1]?.map Line.content) := rfl
  rw [hturn, hnext]
  exact hstep

/-- The states of the two passes match throughout. -/
theorem echoes (k : Nat) (hk : k ≤ script.body.length) :
    (script.passState rules k).Echoes ((script.patched rules).passState rules k) := by
  induction k with
  | zero =>
      rw [passState_zero, passState_zero]
      exact ⟨rfl, rfl⟩
  | succ k ih =>
      have hline : script.body[k]? = some script.body[k] := List.getElem?_eq_getElem hk
      exact (echo_turn rules script hline (ih (Nat.le_of_succ_le hk))).2

/-- The second pass leaves every line alone. -/
theorem turn_patched {k : Nat} {line : Line} (h : (script.patched rules).body[k]? = some line) :
    ((script.patched rules).turn rules k line.content).treated = .kept line.content := by
  rw [getElem?_body_patched, Option.map_eq_some_iff] at h
  rcases h with ⟨old, hold, rfl⟩
  have hk : k < script.body.length := (List.getElem?_eq_some_iff.mp hold).1
  exact (echo_turn rules script hold (echoes rules script k (Nat.le_of_lt hk))).1

theorem patched_patched_body :
    ((script.patched rules).patched rules).body = (script.patched rules).body := by
  refine List.ext_getElem? fun k => ?_
  rw [getElem?_body_patched]
  cases hline : (script.patched rules).body[k]? with
  | none => rfl
  | some line =>
      rw [Option.map_some, turn_patched rules script hline]
      rfl

/-- Patching is idempotent: a second pass with the same rules writes the same
    text, records no edit and ends in the same lexical state. -/
theorem patch_patched :
    ((script.patched rules).patch rules).text = (script.patch rules).text ∧
      ((script.patched rules).patch rules).edits = [] ∧
      ((script.patched rules).patch rules).last = (script.patch rules).last := by
  have hbody := patched_patched_body rules script
  rw [body_patched, body_patched] at hbody
  refine ⟨?_, ?_, ?_⟩
  · change (script.patched rules).mark ++ joinLines
      (Patch.run rules .start 1 (script.patched rules).body).lines = _
    rw [body_patched, hbody, mark_patched]
    rfl
  · rw [List.eq_nil_iff_forall_not_mem]
    intro edit hedit
    -- An edit would be the turn of some line, and every line is kept.
    rcases (mem_edits_iff rules _ edit).mp hedit with ⟨k, line, hline, hne, -⟩
    rw [turn_patched rules script hline] at hne
    exact hne rfl
  · change (Patch.run rules .start 1 (script.patched rules).body).last =
      (Patch.run rules .start 1 script.body).last
    rw [Patch.last_run, Patch.last_run, body_patched, hbody]

end Script

end Rerun
