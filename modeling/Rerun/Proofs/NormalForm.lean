import Rerun.Proofs.Spans

/-!
# The Normal Form of a Patched Script

What is left of `DROP TABLE` and `CREATE TABLE` in a patched script: nothing
that a second run would trip over.

The statement is about the patched script alone, read with a fresh lexer.
With drops commented out, no line that starts in code opens a `DROP TABLE`,
and the scan for statements finds none either. With guards inserted and
mended, each line that starts in code and opens a `CREATE TABLE` is properly
guarded, on the line itself or at the start of the next one.

`written_cases` sorts the written lines by what they open. A line that opens
a `CREATE TABLE` was written by the turn of one, which leaves the rest to
`create_settled`.

## Main definitions

* `Script.GuardedBelow`: A bare head whose proper guard opens the next line.

## Theorems

* `Script.written_cases`: What a line of a patched script opens.
* `Patch.create_settled`: What the guard rules leave of a `CREATE TABLE`.
* `Script.not_dropTable_of_mem_spans`: No span of a patched script is a
  `DROP TABLE`.
* `Script.guarded_of_patched`: A `CREATE TABLE` of a patched script is
  guarded.
* `Script.normal_form_patched`: The normal form of a patched script.
-/

namespace Rerun

open Text LexState

/-- With guards inserted and mended, a `CREATE TABLE` ends up with a proper
    guard on its line, or is left alone because a guard stands below it. -/
theorem Patch.create_settled {rules : Rules} {content : List Char} {next : Option (List Char)}
    (hinsert : rules.insertGuards = true) (hfix : rules.fixTypos = true)
    (hkind : Statement.kindOf (bodyOf content) = .createTable) :
    Statement.IsGuarded (bodyOf (create rules .code content next).treated.text) ∨
      (create rules .code content next).treated.text = content ∧
        ∃ guard, guardBelow? .code content next = some guard := by
  rcases (Statement.kindOf_eq_createTable_iff _).mp hkind with ⟨head, rest, hhead⟩
  change Statement.IsGuarded (bodyOf (guardCreate rules content _).text) ∨
    (guardCreate rules content _).text = content ∧ _
  by_cases hkeep :
      (guardCreate rules content (guardBelow? .code content next).isSome).action = .keep
  · rcases guardCreate_cases rules (guardBelow? .code content next).isSome hhead with
      ⟨guard, hfind, hno, heq⟩ | ⟨_, _, _, _, heq⟩ | ⟨_, hfollows, heq⟩ | ⟨_, _, _, heq⟩
    · -- A clause that was left alone is proper, since a misspelled one is mended.
      refine Or.inl ⟨guard, ?_, ?_⟩
      · rw [heq]
        exact (Statement.guardOf?_of_createHead? hhead).trans hfind
      · cases hspelling : guard.spelling with
        | proper => rfl
        | typo => exact absurd ⟨hspelling, hfix⟩ hno
    · rw [heq] at hkeep
      cases hkeep
    · -- Without a clause the line is left alone only for the sake of the next.
      refine Or.inr ⟨by rw [heq]; rfl, ?_⟩
      rcases hfollows with hfollows | hoff
      · exact Option.isSome_iff_exists.mp hfollows
      · rw [hinsert] at hoff
        cases hoff
    · rw [heq] at hkeep
      cases hkeep
  · exact Or.inl (isGuarded_guardCreate hhead hkeep)

namespace Script

/-- A bare head in code whose proper guard opens the next line. -/
def GuardedBelow (script : Script) (k : Nat) (content : List Char) : Prop :=
  Statement.isBareHead (bodyOf content) = true ∧ (code.advance content).last = .code ∧
    ∃ next guard, script.body[k + 1]? = some next ∧ Guard.leading? next.content = some guard ∧
      guard.spelling = .proper

variable {rules : Rules} {script : Script} {k : Nat} {line : Line}

/-- What a line of a patched script opens that starts in code. -/
theorem written_cases (h : (script.patched rules).body[k]? = some line)
    (hcode : (script.patched rules).stateBefore k = .code) :
    Statement.kindOf (bodyOf line.content) = .other ∨
    (Statement.kindOf (bodyOf line.content) = .dropTable ∧ rules.commentDrops = false) ∨
    (∃ old, script.body[k]? = some old ∧
      Statement.kindOf (bodyOf old.content) = .createTable ∧
      script.turn rules k old.content = Patch.create rules .code old.content
        (script.body[k + 1]?.map Line.content) ∧
      line.content = (script.turn rules k old.content).treated.text) := by
  rw [getElem?_body_patched, Option.map_eq_some_iff] at h
  rcases h with ⟨old, hold, rfl⟩
  rw [stateBefore_patched] at hcode
  change Statement.kindOf (bodyOf (script.turn rules k old.content).treated.text) = _ ∨
    (Statement.kindOf (bodyOf (script.turn rules k old.content).treated.text) = _ ∧ _) ∨ _
  rcases turn_cases rules hold with ⟨hidle, heq⟩ | ⟨-, table, -, heq⟩ | ⟨-, hkind, heq⟩ |
    ⟨-, table, guard, hguard, heq⟩
  · rw [hcode] at hidle
    rw [heq]
    rcases hidle.kindOf with hother | hdrop
    · exact Or.inl hother
    · exact Or.inr (Or.inl hdrop)
  · rw [heq]
    exact Or.inl (Statement.kindOf_of_isComment (isComment_commentOut old.content))
  · exact Or.inr (Or.inr ⟨old, hold, hkind, heq, rfl⟩)
  · -- The line begins with a guard, before and after it was mended.
    rcases leading?_mendLeading rules hguard with ⟨again, hagain, -⟩
    rw [heq]
    exact Or.inl (Statement.kindOf_of_leading? hagain)

/-- With drops commented out, a line of a patched script that starts in code
    opens no `DROP TABLE`. -/
theorem not_dropTable_of_patched (hrule : rules.commentDrops = true)
    (h : (script.patched rules).body[k]? = some line)
    (hcode : (script.patched rules).stateBefore k = .code) :
    Statement.kindOf (bodyOf line.content) ≠ .dropTable := by
  intro hdrop
  rcases written_cases h hcode with hother | ⟨-, hoff⟩ | ⟨old, -, hkind, heq, htext⟩
  · rw [hother] at hdrop
    cases hdrop
  · rw [hrule] at hoff
    cases hoff
  · have hcreate := kindOf_guardCreate rules
      (Patch.guardBelow? .code old.content (script.body[k + 1]?.map Line.content)).isSome hkind
    rw [htext, heq] at hdrop
    rw [show Statement.kindOf (bodyOf (Patch.create rules .code old.content
      (script.body[k + 1]?.map Line.content)).treated.text) = .createTable from hcreate] at hdrop
    cases hdrop

/-- With drops commented out, the scan of a patched script finds no
    `DROP TABLE`. -/
theorem not_dropTable_of_mem_spans (hrule : rules.commentDrops = true) {span : Span}
    (h : span ∈ (script.patched rules).spans) : span.kind ≠ .dropTable := by
  rcases exists_opensOn h with ⟨k, line, hopens⟩
  rw [hopens.kind]
  exact not_dropTable_of_patched hrule hopens.found hopens.code

/-- With guards inserted and mended, a line of a patched script that starts in
    code and opens a `CREATE TABLE` is properly guarded, there or below. -/
theorem guarded_of_patched (hinsert : rules.insertGuards = true) (hfix : rules.fixTypos = true)
    (h : (script.patched rules).body[k]? = some line)
    (hcode : (script.patched rules).stateBefore k = .code)
    (hkind : Statement.kindOf (bodyOf line.content) = .createTable) :
    Statement.IsGuarded (bodyOf line.content) ∨
      (script.patched rules).GuardedBelow k line.content := by
  rcases written_cases h hcode with hother | ⟨hdrop, -⟩ | ⟨old, hold, hcreate, heq, htext⟩
  · rw [hkind] at hother
    cases hother
  · rw [hkind] at hdrop
    cases hdrop
  · rw [htext, heq]
    rcases Patch.create_settled hinsert hfix hcreate with hguarded | ⟨hkept, guard, hbelow⟩
    · exact Or.inl hguarded
    · right
      rw [hkept]
      rcases (Patch.guardBelow?_eq_some_iff _ _ _).mp hbelow with ⟨hbare, hlast, hguard⟩
      rw [Option.bind_eq_some_iff] at hguard
      rcases hguard with ⟨content, hcontent, hguard⟩
      rw [Option.map_eq_some_iff] at hcontent
      rcases hcontent with ⟨next, hnext, rfl⟩
      -- The pass waits for the guard, so the next line is written by mending it.
      have hturn : ∃ table,
          script.turn rules (k + 1) next.content = Patch.guardLine rules table next.content := by
        rcases Patch.create_phase rules old.content (script.body[k + 1]?.map Line.content) with
          ⟨hnone, -⟩ | ⟨table, -, -, hphase⟩
        · rw [hbelow] at hnone
          cases hnone
        · refine ⟨table, Patch.treat_of_guarding ?_ next.content _⟩
          change (script.passState rules (k + 1)).phase = .guarding table
          rw [passState_succ rules hold, heq]
          exact hphase
      rcases hturn with ⟨table, hturn⟩
      rcases leading?_mendLeading rules hguard with ⟨again, hagain, hno⟩
      refine ⟨hbare, hlast, ⟨_, next.ending⟩, again, ?_, hagain, ?_⟩
      · rw [getElem?_body_patched, hnext, Option.map_some, hturn]
        rfl
      · cases hspelling : again.spelling with
        | proper => rfl
        | typo => exact absurd ⟨hspelling, hfix⟩ hno

/-- The normal form of a patched script, as a fresh lexer reads it. With drops
    commented out, no line that starts in code opens a `DROP TABLE`, and no
    span is one. With guards inserted and mended, every line that starts in
    code and opens a `CREATE TABLE` is properly guarded. -/
theorem normal_form_patched (rules : Rules) (script : Script) :
    (rules.commentDrops = true →
      (∀ k line, (script.patched rules).body[k]? = some line →
        (script.patched rules).stateBefore k = .code →
        Statement.kindOf (bodyOf line.content) ≠ .dropTable) ∧
      ∀ span ∈ (script.patched rules).spans, span.kind ≠ .dropTable) ∧
    (rules.insertGuards = true → rules.fixTypos = true →
      ∀ k line, (script.patched rules).body[k]? = some line →
        (script.patched rules).stateBefore k = .code →
        Statement.kindOf (bodyOf line.content) = .createTable →
        Statement.IsGuarded (bodyOf line.content) ∨
          (script.patched rules).GuardedBelow k line.content) := by
  refine ⟨?_, ?_⟩
  · intro hrule
    refine ⟨?_, ?_⟩
    · intro k line h hcode
      exact not_dropTable_of_patched hrule h hcode
    · intro span hspan
      exact not_dropTable_of_mem_spans hrule hspan
  · intro hinsert hfix k line h hcode hkind
    exact guarded_of_patched hinsert hfix h hcode hkind

end Script

end Rerun
