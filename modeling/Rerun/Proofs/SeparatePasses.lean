import Rerun.Proofs.Idempotence

/-!
# Passes One After Another

The transforms may be applied in one pass or in two, as long as drops are not
left to the second: the text that comes out is the same.

Three passes are compared. The *first* one and the *joint* one, which applies
the rules of both, read the same script, and their states are the same before
every line (`passState_congr`). This is because the guard rules change neither
the lexical state at the end of a line nor what the next line may continue;
only commenting out does. The *second* pass reads what the first one has
written, and its states echo those of the first one just as those of a
repeated pass do.

What is left is one line. Where the first pass has acted on it the second one
has nothing to do, and where it has not, the second one acts as the joint one
does (`guardCreate_union`, `mendLeading_union`).

Drops cannot be left to the second pass, because commenting out a line that
opens a comment brings the lines below it to light, and the first pass has
passed them over by then. The last example is such a script.

## Main definitions

* `Rules.union`: The rules that two sets of rules make up together.

## Theorems

* `guardCreate_union`, `mendLeading_union`: The edits of a line, one after the
  other.
* `Patch.treat_congr`: What the guard rules can make a difference to.
* `Patch.next_congr`, `Script.passState_congr`: The states of a pass do not
  depend on the guard rules.
* `Patch.union_treat`: One line in the two passes and in the joint one.
* `Script.patched_patched_body_union`: The lines of the two passes.
* `Script.patch_patched_union`: One pass or two passes, the text is the same.
-/

namespace Rerun

open Text LexState

/-- The rules that apply a transform if either of two sets of rules does. -/
def Rules.union (first second : Rules) : Rules where
  commentDrops := first.commentDrops || second.commentDrops
  insertGuards := first.insertGuards || second.insertGuards
  fixTypos := first.fixTypos || second.fixTypos

/-- A clause that the first rules do not mend is mended by both together
    exactly if the second rules mend it. -/
theorem mends_union_iff {first second : Rules} {guard : Guard}
    (hno : ¬ (guard.spelling = .typo ∧ first.fixTypos = true)) :
    guard.spelling = .typo ∧ (first.union second).fixTypos = true ↔
      guard.spelling = .typo ∧ second.fixTypos = true := by
  simp only [Rules.union, Bool.or_eq_true]
  constructor
  · rintro ⟨htypo, hfirst | hsecond⟩
    · exact absurd ⟨htypo, hfirst⟩ hno
    · exact ⟨htypo, hsecond⟩
  · rintro ⟨htypo, hsecond⟩
    exact ⟨htypo, Or.inr hsecond⟩

/-- A line that opens a `CREATE TABLE`, in two passes and in one. The second
    pass may see another line below, but only where the first has acted. -/
theorem guardCreate_union (first second : Rules) {content : List Char} {follows follows' : Bool}
    (h : Statement.kindOf (bodyOf content) = .createTable)
    (hfollows : (guardCreate first content follows).action = .keep → follows' = follows) :
    (guardCreate second (guardCreate first content follows).text follows').text =
      (guardCreate (first.union second) content follows).text := by
  rcases (Statement.kindOf_eq_createTable_iff _).mp h with ⟨head, rest, hhead⟩
  by_cases hkeep : (guardCreate first content follows).action = .keep
  · rw [hfollows hkeep, guardCreate_of_keep hhead hkeep]
    change (guardCreate second content follows).text = _
    rcases guardCreate_cases first follows hhead with ⟨guard, hfind, hno, -⟩ | ⟨_, _, _, _, heq⟩ |
      ⟨hfind, hwhy, -⟩ | ⟨_, _, _, heq⟩
    · simp only [guardCreate, hhead, hfind, mends_union_iff hno]
    · rw [heq] at hkeep
      cases hkeep
    · have hrule : (follows = true ∨ ¬ (first.union second).insertGuards = true) ↔
          (follows = true ∨ ¬ second.insertGuards = true) := by
        simp only [Rules.union, Bool.or_eq_true]
        rcases hwhy with hbelow | hoff
        · simp only [hbelow, true_or]
        · simp only [hoff, Bool.false_eq_true, false_or]
      simp only [guardCreate, hhead, hfind, hrule]
    · rw [heq] at hkeep
      cases hkeep
  · -- The line is guarded now, and the joint pass has guarded it the same way.
    rw [guardCreate_of_isGuarded second follows' (isGuarded_guardCreate hhead hkeep)]
    change (guardCreate first content follows).text = _
    rcases guardCreate_cases first follows hhead with ⟨_, _, _, heq⟩ |
      ⟨guard, hfind, htypo, hfix, -⟩ | ⟨_, _, heq⟩ | ⟨hfind, hbelow, hinsert, -⟩
    · rw [heq] at hkeep
      exact absurd rfl hkeep
    · simp only [guardCreate, hhead, hfind, htypo, hfix, Rules.union, Bool.true_or]
    · rw [heq] at hkeep
      exact absurd rfl hkeep
    · simp only [guardCreate, hhead, hfind, hbelow, hinsert, Rules.union, Bool.true_or]

/-- A line that a guard may open, in two passes and in one. -/
theorem mendLeading_union (first second : Rules) (content : List Char) :
    (mendLeading second (mendLeading first content).text).text =
      (mendLeading (first.union second) content).text := by
  cases h : Guard.leading? content with
  | none =>
      rw [mendLeading_of_none first h, mendLeading_of_none (first.union second) h]
      change (mendLeading second content).text = _
      rw [mendLeading_of_none second h]
  | some guard =>
      rcases mendLeading_cases first h with ⟨hno, heq⟩ | ⟨htypo, hfix, heq⟩
      · rw [heq]
        change (mendLeading second content).text = _
        simp only [mendLeading, h, mends_union_iff hno]
      · have hproper : ¬ (Spelling.proper = .typo ∧ second.fixTypos = true) := by
          rintro ⟨hcontra, -⟩
          cases hcontra
        have hjoint : mendLeading (first.union second) content = ⟨.fixTypo, guard.mend content⟩ := by
          simp only [mendLeading, h, htypo, hfix, Rules.union, Bool.true_or, and_self, if_true]
        rw [heq, hjoint]
        simp only [mendLeading, Guard.leading?_mend h, if_neg hproper, Treated.kept]

namespace Patch

/-- A line that continues nothing, under rules that agree on drops. -/
theorem plain_congr {rules rules' : Rules} (h : rules.commentDrops = rules'.commentDrops)
    (lex : LexState) (content : List Char) (next : Option (List Char)) :
    (Idle rules lex content ∧ plain rules lex content next = pass content ∧
      plain rules' lex content next = pass content) ∨
    (lex = .code ∧ ∃ table, plain rules lex content next = drop table content ∧
      plain rules' lex content next = drop table content) ∨
    (lex = .code ∧ Statement.kindOf (bodyOf content) = .createTable ∧
      plain rules lex content next = create rules .code content next ∧
      plain rules' lex content next = create rules' .code content next) := by
  rcases plain_cases rules lex content next with ⟨hidle, heq⟩ | ⟨rfl, hkind, hrule, heq⟩ |
    ⟨rfl, hkind, heq⟩
  · have hidle' : Idle rules' lex content := by
      unfold Idle at hidle ⊢
      rwa [h] at hidle
    exact Or.inl ⟨hidle, heq, plain_of_idle hidle' next⟩
  · refine Or.inr (Or.inl ⟨rfl, _, heq, ?_⟩)
    rcases plain_cases rules' .code content next with ⟨hidle, -⟩ | ⟨-, -, -, heq'⟩ |
      ⟨-, hcreate, -⟩
    · rcases hidle.kindOf with hother | ⟨-, hoff⟩
      · rw [hkind] at hother
        cases hother
      · rw [← h, hrule] at hoff
        cases hoff
    · exact heq'
    · rw [hkind] at hcreate
      cases hcreate
  · exact Or.inr (Or.inr ⟨rfl, hkind, heq, plain_of_createTable hkind next⟩)

/-- What one turn can do under rules that agree on drops. The guard rules make
    a difference on two lines only: one that opens a `CREATE TABLE`, and one
    that holds the guard of the head before it. -/
theorem treat_congr {rules rules' : Rules} (h : rules.commentDrops = rules'.commentDrops)
    (state : State) (content : List Char) (next : Option (List Char)) :
    ((∀ table, state.phase ≠ .guarding table) ∧ Idle rules state.lex content ∧
      treat rules state content next = pass content ∧
      treat rules' state content next = pass content) ∨
    ((∀ table, state.phase ≠ .guarding table) ∧ state.lex = .code ∧
      ∃ table, treat rules state content next = drop table content ∧
        treat rules' state content next = drop table content) ∨
    ((∀ table, state.phase ≠ .guarding table) ∧ state.lex = .code ∧
      Statement.kindOf (bodyOf content) = .createTable ∧
      treat rules state content next = create rules .code content next ∧
      treat rules' state content next = create rules' .code content next) ∨
    (∃ table, state.phase = .guarding table ∧
      treat rules state content next = guardLine rules table content ∧
      treat rules' state content next = guardLine rules' table content) := by
  rcases phase_cases state content next with ⟨table, hphase, hlex, -, heq⟩ | ⟨hphase, heq⟩ |
    ⟨table, hphase, heq⟩
  · refine Or.inr (Or.inl ⟨?_, hlex, table, heq rules, heq rules'⟩)
    rw [hphase]
    exact fun _ => Phase.noConfusion
  · rw [heq rules, heq rules']
    rcases plain_congr h state.lex content next with hidle | hdrop | hcreate
    · exact Or.inl ⟨hphase, hidle⟩
    · exact Or.inr (Or.inl ⟨hphase, hdrop⟩)
    · exact Or.inr (Or.inr (Or.inl ⟨hphase, hcreate⟩))
  · exact Or.inr (Or.inr (Or.inr ⟨table, hphase, heq rules, heq rules'⟩))

/-- The state after a line does not depend on the guard rules. -/
theorem next_congr {rules rules' : Rules} (h : rules.commentDrops = rules'.commentDrops)
    {state : State} {content : List Char} (hfits : state.Fits (some content))
    (next : Option (List Char)) :
    state.next (treat rules state content next) = state.next (treat rules' state content next) := by
  rcases treat_congr h state content next with ⟨-, -, heq, heq'⟩ | ⟨-, -, table, heq, heq'⟩ |
    ⟨-, hlex, -, heq, heq'⟩ | ⟨table, hphase, heq, heq'⟩
  · rw [heq, heq']
  · rw [heq, heq']
  · -- The phase is decided by the line and the one below it as they are read.
    have heffect := advance_guardCreate rules content (guardBelow? .code content next).isSome
    have heffect' := advance_guardCreate rules' content (guardBelow? .code content next).isSome
    rw [heq, heq']
    simp only [State.next, hlex, create, heffect, heffect']
  · rw [heq, heq']
    simp only [State.next, guardLine, (hfits.of_guarding hphase).1, advance_mendLeading]

/-- One line in the two passes and in the joint one. The second pass reads
    what the first has written, here and on the line below. -/
theorem union_treat (first : Rules) {second : Rules} (hdrops : second.commentDrops = false)
    {state later : State} (hecho : state.Echoes later) {content : List Char}
    (hfits : state.Fits (some content)) (next after : Option (List Char)) :
    let turn := treat first state content next
    let again := treat second later turn.treated.text
      (next.map fun c => (treat first (state.next turn) c after).treated.text)
    again.treated.text = (treat (first.union second) state content next).treated.text ∧
      (state.next turn).Echoes (later.next again) := by
  intro turn again
  have hsame : first.commentDrops = (first.union second).commentDrops := by
    rw [Rules.union, hdrops, Bool.or_false]
  -- The lexical states agree because the text is that of the joint pass.
  suffices h : again.treated.text = (treat (first.union second) state content next).treated.text ∧
      turn.phase.Echoes again.phase by
    refine ⟨h.1, ?_, h.2⟩
    have hjoint := congrArg State.lex (next_congr hsame hfits next)
    change (later.lex.advance again.treated.text).last = _
    rw [h.1, hecho.lex]
    exact hjoint.symm
  rcases treat_congr hsame state content next with ⟨hphase, hidle, heq, hjoint⟩ |
    ⟨hphase, hlex, table, heq, hjoint⟩ | ⟨hphase, hlex, hkind, heq, hjoint⟩ |
    ⟨table, hphase, heq, hjoint⟩
  · have hturn : turn = pass content := heq
    have hidle' : Idle second later.lex content := by
      rw [hecho.lex]
      rcases hidle with h | h | h | h | ⟨h, -⟩
      · exact Or.inl h
      · exact Or.inr (Or.inl h)
      · exact Or.inr (Or.inr (Or.inl h))
      · exact Or.inr (Or.inr (Or.inr (Or.inl h)))
      · exact Or.inr (Or.inr (Or.inr (Or.inr ⟨h, hdrops⟩)))
    have hagain : again = pass content := by
      change treat second later turn.treated.text _ = pass content
      rw [hturn, treat_of_free (hecho.phase.free hphase)]
      exact plain_of_idle hidle' _
    rw [hagain, hturn, hjoint]
    exact ⟨rfl, rfl⟩
  · -- The second pass sees a comment and carries on nothing.
    have hturn : turn = drop table content := heq
    have hagain : again = pass (commentOut content) := by
      change treat second later turn.treated.text _ = pass (commentOut content)
      rw [hturn, treat_of_free (hecho.phase.free hphase)]
      exact plain_of_idle (Or.inr (Or.inr (Or.inl (isComment_commentOut content)))) _
    rw [hagain, hturn, hjoint]
    refine ⟨rfl, ?_⟩
    change (if _ then Phase.free else Phase.dropping table).Echoes .free
    split <;> rfl
  · have hturn : turn = create first .code content next := heq
    have hagain : again = create second .code turn.treated.text
        (next.map fun c => (treat first (state.next turn) c after).treated.text) := by
      change treat second later turn.treated.text _ = _
      rw [treat_of_free (hecho.phase.free hphase), hecho.lex, hlex]
      refine plain_of_createTable ?_ _
      rw [hturn]
      exact kindOf_guardCreate first _ hkind
    have hbelow := @guardBelow?_written first state content next after
    rw [hagain, hturn, hjoint]
    refine ⟨guardCreate_union first second hkind ?_, (create_again hkind hbelow).2⟩
    -- A line that was kept has the guard below it that it had before.
    intro hkeep
    rcases (Statement.kindOf_eq_createTable_iff _).mp hkind with ⟨head, rest, hhead⟩
    have hwritten : (create first .code content next).treated.text = content :=
      congrArg Treated.text (guardCreate_of_keep hhead hkeep)
    rw [hwritten]
    exact hbelow
  · -- Both passes wait for the guard of the head before.
    have hturn : turn = guardLine first table content := heq
    have hsecond := hecho.phase
    rw [hphase] at hsecond
    rcases hsecond with ⟨table', hsecond⟩
    have hagain : again = guardLine second table' turn.treated.text := by
      change treat second later turn.treated.text _ = _
      exact treat_of_guarding hsecond _ _
    rw [hagain, hturn, hjoint]
    exact ⟨mendLeading_union first second content, rfl⟩

end Patch

namespace Script

/-- The states of a pass do not depend on the guard rules. -/
theorem passState_congr {rules rules' : Rules} (h : rules.commentDrops = rules'.commentDrops)
    (script : Script) (k : Nat) (hk : k ≤ script.body.length) :
    script.passState rules k = script.passState rules' k := by
  induction k with
  | zero => rw [passState_zero, passState_zero]
  | succ k ih =>
      have hline : script.body[k]? = some script.body[k] := List.getElem?_eq_getElem hk
      have hstate := ih (Nat.le_of_succ_le hk)
      rw [passState_succ rules hline, passState_succ rules' hline, turn, turn, Patch.turnAt,
        Patch.turnAt]
      change (script.passState rules k).next (Patch.treat rules (script.passState rules k) _ _) =
        (script.passState rules' k).next (Patch.treat rules' (script.passState rules' k) _ _)
      rw [← hstate]
      exact Patch.next_congr h (fits_passState rules hline) _

variable (first : Rules) {second : Rules} (hdrops : second.commentDrops = false) (script : Script)

include hdrops

/-- The step of the simulation, for a line of a script. -/
theorem union_turn {k : Nat} {line : Line} (h : script.body[k]? = some line)
    (hecho : (script.passState first k).Echoes ((script.patched first).passState second k)) :
    ((script.patched first).turn second k
        (script.turn first k line.content).treated.text).treated.text =
      (script.turn (first.union second) k line.content).treated.text ∧
    (script.passState first (k + 1)).Echoes ((script.patched first).passState second (k + 1)) := by
  have hk : k ≤ script.body.length := Nat.le_of_lt (List.getElem?_eq_some_iff.mp h).1
  have hline : (script.patched first).body[k]? =
      some ⟨(script.turn first k line.content).treated.text, line.ending⟩ := by
    rw [getElem?_body_patched, h]
    rfl
  -- The second pass looks ahead at the next line as the first one writes it.
  have hnext : (script.patched first).body[k + 1]?.map Line.content =
      (script.body[k + 1]?.map Line.content).map fun c =>
        (Patch.treat first (script.passState first (k + 1)) c
          (script.body[k + 2]?.map Line.content)).treated.text := by
    rw [getElem?_body_patched, Option.map_map, Option.map_map]
    rfl
  have hstep := Patch.union_treat first hdrops hecho (fits_passState first h)
    (script.body[k + 1]?.map Line.content) (script.body[k + 2]?.map Line.content)
  have hjoint : script.turn (first.union second) k line.content =
      Patch.treat (first.union second) (script.passState first k) line.content
        (script.body[k + 1]?.map Line.content) := by
    have hsame : first.commentDrops = (first.union second).commentDrops := by
      rw [Rules.union, hdrops, Bool.or_false]
    rw [passState_congr hsame script k hk]
    rfl
  have hagain : (script.patched first).turn second k
        (script.turn first k line.content).treated.text =
      Patch.treat second ((script.patched first).passState second k)
        (script.turn first k line.content).treated.text
        ((script.patched first).body[k + 1]?.map Line.content) := rfl
  rw [passState_succ first h] at hnext
  rw [passState_succ first h, passState_succ second hline, hjoint, hagain, hnext]
  exact hstep

/-- The states of the second pass echo those of the first one throughout. -/
theorem echoes_union (k : Nat) (hk : k ≤ script.body.length) :
    (script.passState first k).Echoes ((script.patched first).passState second k) := by
  induction k with
  | zero =>
      rw [passState_zero, passState_zero]
      exact ⟨rfl, rfl⟩
  | succ k ih =>
      have hline : script.body[k]? = some script.body[k] := List.getElem?_eq_getElem hk
      exact (union_turn first hdrops script hline (ih (Nat.le_of_succ_le hk))).2

/-- The two passes write the lines that the joint one writes. -/
theorem patched_patched_body_union :
    ((script.patched first).patched second).body = (script.patched (first.union second)).body := by
  refine List.ext_getElem? fun k => ?_
  rw [getElem?_body_patched, getElem?_body_patched, getElem?_body_patched]
  cases hline : script.body[k]? with
  | none => rfl
  | some line =>
      have hk : k ≤ script.body.length := Nat.le_of_lt (List.getElem?_eq_some_iff.mp hline).1
      have htext := (union_turn first hdrops script hline (echoes_union first hdrops script k hk)).1
      simp only [Option.map_some, htext]

omit hdrops

/-- One pass or two passes, the text is the same, as long as drops are not left
    to the second pass. -/
theorem patch_patched_union (first : Rules) {second : Rules}
    (hdrops : second.commentDrops = false) (script : Script) :
    ((script.patched first).patch second).text = (script.patch (first.union second)).text := by
  have htwo := text_eq_mark_append ((script.patched first).patched second)
  have hone := text_eq_mark_append (script.patched (first.union second))
  rw [patched_patched_body_union first hdrops script, mark_patched, mark_patched] at htwo
  rw [mark_patched] at hone
  exact htwo.trans hone.symm

/-- A script on which each transform has something to do, by way of a pass that
    leaves the missing guards to another one. -/
theorem patch_patched_union_guards :
    (((Script.mk "DROP TABLE a;\nCREATE TABLE\nif not exist b;\nCREATE TABLE c;".toList).patched
      { insertGuards := false }).patch
        { commentDrops := false, insertGuards := true, fixTypos := false }).text =
      "-- DROP TABLE a;\nCREATE TABLE\nIF NOT EXISTS b;\nCREATE TABLE IF NOT EXISTS c;".toList := by
  refine (patch_patched_union { insertGuards := false } rfl _).trans ?_
  decide

/-- Drops cannot be left to the second pass: the comment on the line of the
    drop hides the line below it from the first pass only. -/
example :
    let script := Script.mk "DROP TABLE a; /* b\nCREATE TABLE c (i INT);\n*/".toList
    ((script.patched { commentDrops := false }).patch
      { insertGuards := false, fixTypos := false }).text ≠ (script.patch {}).text := by
  decide

end Script

end Rerun
