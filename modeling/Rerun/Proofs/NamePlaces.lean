import Rerun.Proofs.GuardLayout
import Rerun.Proofs.LetterCase
import Rerun.Proofs.NameReading

/-!
# The Same Name in Two Places

A table keeps its name when the text around the name is changed. Two such
changes are looked at.

An inserted guard goes between the head and the name, and what is read behind
it is the old name (`TableName.inserted_guard_keeps_name`). If there was no name
before then none is made up, since the words of the guard are refused as a
name.

Splitting the line after its head does not go as well. The name is then read
on a line of its own by a reader that knows no quotes. It takes what it finds
up to a blank, a parenthesis, a semicolon or a comma, so it cuts a quoted name
at each of these, and it takes along what follows a quoted name directly.
`TableName.continuation_agrees_iff` says exactly when both readers agree.

## Theorems

* `Guard.find?_of_guardClause?`: A clause before a name is a guard on its line.
* `TableName.inserted_guard_keeps_name`: The name behind an inserted guard.
* `TableName.ofContinuation?_eq`: Where the name is looked for on its own line.
* `TableName.continuation_agrees_iff`: When a name can stand on its own line.
* `TableName.continuation_cut`: A name that is cut at a blank.
-/

namespace Rerun

open Text Keyword LexState

namespace Guard

/-- A clause that is passed over before a name is found as a guard. -/
theorem find?_of_guardClause? {rest after : List Char}
    (h : TableName.guardClause? rest = some after) : find? rest ≠ none := by
  rw [TableName.guardClause?_eq, Option.bind_eq_some_iff] at h
  rcases h with ⟨⟨spelling, tail⟩, htoken, hgap⟩
  rcases (token?_eq_some_iff _ _ _).mp htoken with ⟨t, ht, rfl, -⟩
  rcases (gap?_eq_some_iff _ _).mp hgap with ⟨gap, hne, hgaps, rfl, -⟩
  -- Clause and gap are searched as they are.
  have hbland : Bland (t ++ gap) := by
    refine (ht.bland spelling.isKeyword_words).append ?_
    exact fun c hc => Or.inl (isBlank_of_isGap (hgaps c hc))
  have hregion : region (t ++ (gap ++ after)) = t ++ (gap ++ region after) := by
    rw [← List.append_assoc, region_bland_append hbland, List.append_assoc]
  have hfound := (token?_eq_some_iff _ _ spelling).mpr
    ⟨t, ht, rfl, atBoundary_gap hne hgaps (region after)⟩
  have hsome : token? (t ++ (gap ++ region after)) ≠ none := by
    rw [hfound]
    exact Option.some_ne_none _
  rw [find?, hregion]
  exact @search_ne_none false 0 [] _ rfl hsome

end Guard

namespace TableName

/-- The name behind an inserted guard is the name behind the head. -/
theorem ofCreate?_inserted {content head rest : List Char}
    (h : Statement.createHead? (bodyOf content) = some (head, rest))
    (hfind : Guard.find? rest = none) :
    ofCreate? (head ++ (lead head ++ (Guard.clause ++ (trail rest ++ rest)))) =
      ofCreate? (bodyOf content) := by
  rcases (Statement.createHead?_eq_some_iff _ _ _).mp h with
    ⟨hold, p, g, hp, hg, rfl, hrest, -⟩
  have hlead : Gaps (g ++ lead (p ++ g)) := by
    intro c hc
    rcases List.mem_append.mp hc with hc | hc
    · exact hg c hc
    · exact gaps_lead _ c hc
  -- There was no clause before the name.
  have hnone : afterGuard rest = rest := by
    cases hclause : guardClause? rest with
    | none => rw [afterGuard, hclause]; rfl
    | some after => exact absurd hfind (Guard.find?_of_guardClause? hclause)
  rw [hold, List.append_assoc, ofCreate?_spelled hp, ← List.append_assoc,
    dropWhile_gaps hlead rfl, List.append_assoc, ofCreate?_spelled hp, dropWhile_gaps hg hrest,
    hnone]
  cases rest with
  -- No name follows the head, and the words of the guard are none.
  | nil => decide
  | cons c more =>
      have htrail : Gaps [' '] := List.all_eq_true.mp (by decide)
      rw [afterGuard, show trail (c :: more) = [' '] from rfl,
        guardClause?_spelled Guard.spells_clause (List.cons_ne_nil _ _) htrail hrest]
      rfl

/-- Inserting a guard does not change the table that a line names, and gives
    no name to a line without one. -/
theorem inserted_guard_keeps_name {rules : Rules} {content : List Char} {follows : Bool}
    (h : (guardCreate rules content follows).action = .insertGuard) :
    Kind.createTable.tableName? (bodyOf (guardCreate rules content follows).text) =
      Kind.createTable.tableName? (bodyOf content) := by
  cases hcreate : Statement.createHead? (bodyOf content) with
  | none =>
      simp only [guardCreate, hcreate, Treated.kept] at h
      cases h
  | some split =>
      rcases split with ⟨head, rest⟩
      rcases guardCreate_cases rules follows hcreate with ⟨_, _, _, heq⟩ | ⟨_, _, _, _, heq⟩ |
        ⟨_, _, heq⟩ | ⟨hfind, _, _, heq⟩
      · rw [heq] at h
        cases h
      · rw [heq] at h
        cases h
      · rw [heq] at h
        cases h
      · have hbody := bodyOf_after_head hcreate
          (lead head ++ (Guard.clause ++ (trail rest ++ rest)))
        rw [heq, insertGuard_eq, hbody]
        exact ofCreate?_inserted hcreate hfind

/-- A name that begins like the guard that goes before it. -/
theorem inserted_guard_keeps_name_if :
    let content := "  CREATE TABLE if.x (id INT);".toList
    (guardCreate {} content false).action = .insertGuard ∧
      Kind.createTable.tableName? (bodyOf (guardCreate {} content false).text) =
        some "if.x".toList := by
  intro content
  have haction : (guardCreate {} content false).action = .insertGuard := by decide
  exact ⟨haction, (inserted_guard_keeps_name haction).trans (by decide)⟩

/-- A guard is not read as a name, whatever follows it. -/
theorem named?_of_token? {text tail : List Char} {spelling : Spelling}
    (h : Guard.token? text = some (spelling, tail)) : named? text = none := by
  rcases (Guard.token?_eq_some_iff _ _ _).mp h with ⟨t, ht, rfl, -⟩
  cases spelling with
  | proper | typo =>
      rcases spells_cons_iff.mp ht with ⟨word, gap, more, hword, hne, hgaps, -, rfl⟩
      rw [List.append_assoc, List.append_assoc]
      exact named?_of_if hword hne hgaps (more ++ tail)

/-- The line after a bare head is read behind its guard, like the rest of an
    opening line. -/
theorem ofContinuation?_eq {line name : List Char}
    (h : named? (afterGuard (bodyOf line)) = some name) :
    ofContinuation? line = loose? (bodyOf (afterGuard (bodyOf line))) := by
  cases htoken : Guard.token? (bodyOf line) with
  | none =>
      have hafter : afterGuard (bodyOf line) = bodyOf line := by
        rw [afterGuard, guardClause?_eq, htoken]
        rfl
      have hbody : bodyOf (bodyOf line) = bodyOf line :=
        dropWhile_of_head? (head?_dropWhile isBlank line)
      rw [hafter, hbody, ofContinuation?, htoken]
      rfl
  | some found =>
      rcases found with ⟨spelling, tail⟩
      have hclause : guardClause? (bodyOf line) = gap? tail := by
        rw [guardClause?_eq, htoken]
        rfl
      cases hgap : gap? tail with
      | some after =>
          have hafter : afterGuard (bodyOf line) = after := by
            rw [afterGuard, hclause, hgap]
            rfl
          rcases (gap?_eq_some_iff _ _).mp hgap with ⟨gap, -, hgaps, rfl, -⟩
          rw [hafter, ← Statement.bodyOf_gaps hgaps after, ofContinuation?, htoken]
          rfl
      | none =>
          -- The first word of the guard would be the name.
          have hafter : afterGuard (bodyOf line) = bodyOf line := by
            rw [afterGuard, hclause, hgap]
            rfl
          rw [hafter, named?_of_token? htoken] at h
          cases h

theorem isLoose_of_isQuoteMark {c : Char} (h : isQuoteMark c = true) : isLoose c = true := by
  have hmarks : ['\x60', '\x22', '[', ']'].all isLoose = true := by decide
  exact List.all_eq_true.mp hmarks c (List.contains_iff_mem.mp h)

/-- A name that holds nothing that could end it is read together with what
    follows it, up to the next character that ends a name. -/
theorem takeWhile_isLoose {raw after : List Char} (hrest : rest? (raw ++ after) = some after)
    (hloose : ∀ c ∈ raw, isLoose c = true) :
    (bodyOf (raw ++ after)).takeWhile isLoose = raw ++ after.takeWhile isLoose := by
  have hbody : bodyOf (raw ++ after) = raw ++ after := by
    rcases List.exists_cons_of_ne_nil (raw_ne_nil hrest) with ⟨c, more, rfl⟩
    have hc := hloose c List.mem_cons_self
    rw [isLoose, Bool.and_eq_true, Bool.not_eq_true'] at hc
    exact dropWhile_of_head? hc.1
  rw [hbody, List.takeWhile_append_of_pos hloose]

/-- Quoting characters behind a name begin no comment. -/
theorem startsWith_dashes_append {raw marks : List Char} (h : ∀ c ∈ marks, isQuoteMark c = true)
    (hne : raw ≠ []) : startsWith ['-', '-'] (raw ++ marks) = startsWith ['-', '-'] raw := by
  match raw, marks with
  | [], _ => exact absurd rfl hne
  | c :: d :: more, _ => rfl
  | [c], [] => rfl
  | [c], m :: rest =>
      have hm : m ≠ '-' := by
        rintro rfl
        exact absurd (h '-' List.mem_cons_self) (by decide)
      simp [startsWith, List.isPrefixOf, hm.symm]

theorem loose?_eq_some_iff (text name : List Char) :
    loose? text = some name ↔ text.takeWhile isLoose ≠ [] ∧
      startsWith ['-', '-'] (text.takeWhile isLoose) = false ∧
      unquote (text.takeWhile isLoose) = name := by
  simp only [loose?]
  cases hempty : (text.takeWhile isLoose).isEmpty with
  | true =>
      rw [List.isEmpty_iff] at hempty
      simp [hempty]
  | false =>
      rw [List.isEmpty_eq_false_iff] at hempty
      cases startsWith ['-', '-'] (text.takeWhile isLoose) <;> simp [hempty]

/-- The head and the line below it, read as one line. -/
theorem ofCreate?_bodyOf (line : List Char) :
    ofCreate? ("CREATE TABLE ".toList ++ bodyOf line) = named? (afterGuard (bodyOf line)) := by
  have hgap : Gaps [' '] := List.all_eq_true.mp (by decide)
  have hstart : (bodyOf line).head?.any isGap = false := by
    have hblank := head?_dropWhile isBlank line
    rw [Option.any_eq_false] at hblank ⊢
    intro c hc
    rw [Bool.eq_false_iff]
    intro hgap
    have hno := hblank c hc
    rw [isBlank_of_isGap hgap] at hno
    cases hno
  have hwords : Spells Statement.createWords "CREATE TABLE".toList :=
    spells_of_phrase? Statement.isKeyword_createWords (by decide)
  change ofCreate? ("CREATE TABLE".toList ++ ([' '] ++ bodyOf line)) = _
  rw [ofCreate?_spelled hwords, dropWhile_gaps hgap hstart]

/-- A name on a line of its own is the name on an opening line exactly if, as
    it is written, no blank, parenthesis, semicolon or comma is in it, and
    nothing but quoting characters stands between it and the next of these. -/
theorem continuation_agrees_iff {line name : List Char}
    (h : Kind.createTable.tableName? ("CREATE TABLE ".toList ++ bodyOf line) = some name) :
    let text := afterGuard (bodyOf line)
    ∃ raw after, raw? text = some raw ∧ rest? text = some after ∧ unquote raw = name ∧
      (ofContinuation? line = some name ↔
        (∀ c ∈ raw, isLoose c = true) ∧ ∀ c ∈ after.takeWhile isLoose, isQuoteMark c = true) := by
  intro text
  have hnamed : named? text = some name := (ofCreate?_bodyOf line).symm.trans h
  rcases (named?_eq_some_iff text name).mp hnamed with ⟨raw, after, htext, hafter, hno, rfl⟩
  have hraw : raw? text = some raw := by
    rw [raw?, hafter, htext, Option.map_some, taken_append]
  refine ⟨raw, after, hraw, hafter, rfl, ?_⟩
  rw [ofContinuation?_eq hnamed, loose?_eq_some_iff, show afterGuard (bodyOf line) = text from rfl]
  rw [htext] at hafter ⊢
  constructor
  · rintro ⟨-, -, hsame⟩
    -- Quoting characters apart, both readers have read the same characters.
    have hfilter : ((bodyOf (raw ++ after)).takeWhile isLoose).filter (fun c => !isQuoteMark c) =
        raw.filter fun c => !isQuoteMark c := by
      rw [← filter_unquote, hsame, filter_unquote]
    have hloose : ∀ c ∈ raw, isLoose c = true := by
      intro c hc
      by_cases hmark : isQuoteMark c = true
      · exact isLoose_of_isQuoteMark hmark
      · have hmem : c ∈ raw.filter fun c => !isQuoteMark c := by simp [hc, hmark]
        rw [← hfilter] at hmem
        exact List.mem_takeWhile_imp (List.mem_filter.mp hmem).1
    refine ⟨hloose, ?_⟩
    rw [takeWhile_isLoose hafter hloose, List.filter_append, List.append_right_eq_self,
      List.filter_eq_nil_iff] at hfilter
    simpa using hfilter
  · rintro ⟨hloose, hmarks⟩
    rw [takeWhile_isLoose hafter hloose, unquote_append hmarks]
    have hne := raw_ne_nil hafter
    rw [isNoName, Bool.or_eq_false_iff, Bool.or_eq_false_iff] at hno
    refine ⟨List.append_ne_nil_of_left_ne_nil hne _, ?_, rfl⟩
    rw [startsWith_dashes_append hmarks hne]
    exact hno.1.2

/-- Behind a guard, a quoted name with a quote too many. -/
theorem continuation_agrees_quoted :
    let line := "  if NOT exist \x60a\x60.\"b\"\"(id INT)".toList
    Kind.createTable.tableName? ("CREATE TABLE ".toList ++ bodyOf line) = some "a.b".toList ∧
      ofContinuation? line = some "a.b".toList := by
  intro line
  have hname : Kind.createTable.tableName? ("CREATE TABLE ".toList ++ bodyOf line) =
      some "a.b".toList := by decide
  have hwritten : raw? (afterGuard (bodyOf line)) = some "\x60a\x60.\"b\"".toList := by decide
  have hbehind : rest? (afterGuard (bodyOf line)) = some "\"(id INT)".toList := by decide
  rcases continuation_agrees_iff hname with ⟨raw, after, hraw, hafter, -, hagrees⟩
  rw [hwritten, Option.some.injEq] at hraw
  rw [hbehind, Option.some.injEq] at hafter
  rw [← hraw, ← hafter] at hagrees
  have hloose : "\x60a\x60.\"b\"".toList.all isLoose = true := by decide
  have hmarks : ("\"(id INT)".toList.takeWhile isLoose).all isQuoteMark = true := by decide
  exact ⟨hname, hagrees.mpr ⟨List.all_eq_true.mp hloose, List.all_eq_true.mp hmarks⟩⟩

/-- A name that is cut at the blank inside its quotes. -/
theorem continuation_cut :
    let line := "`a b` (id INT);".toList
    Kind.createTable.tableName? ("CREATE TABLE ".toList ++ bodyOf line) = some "a b".toList ∧
      ofContinuation? line = some "a".toList := by
  decide

end TableName

end Rerun
