import Rerun.Proofs.Contents
import Rerun.Proofs.Outlines
import Rerun.Proofs.SpanEnds

/-!
# Names of Tables

The table that an inserted guard is reported with, and the table of the span
that opens on the same line.

Either is read off the opening line or off the line after it, and each side
has a test of its own for which of the two it is. Patching looks at the next
line if the head is bare, that is if the code of the opening line has nothing
after `CREATE TABLE`. The spans look at the next line if the opening line names
no table and the statement goes on. The tests differ, and so may the names, in
three ways.

* A quoted name after the head is no code. The head is bare, and patching
  passes the name over.
* The next line begins another statement. It is not a part of the span, and
  patching takes its first word for the name.
* There is code after the head but no name. Patching finds no name, and the
  span takes one from the next line.

`tables_agree_iff` says that there is no fourth way.

## Main definitions

* `Script.nameOn`: The name on a line that carries a `CREATE TABLE` on.

## Theorems

* `Script.table_of_insertGuard`: The table that a guard is reported with.
* `Script.table_of_createTable`: The table of a span.
* `Script.goes_on_iff`: When a statement goes on after a bare head.
* `Script.nameOn_past_end_iff`: When a name below a bare head is its own.
* `TableName.ofContinuation?_of_opens`: A line that begins a statement is never
  without a name.
* `Script.tables_agree_iff`: When both tables are the same.
* `Script.table_passed_over`: A quoted name that is passed over.
-/

namespace Rerun

open Text Keyword LexState

namespace Statement

/-- The keywords that begin a statement are words of letters. -/
theorem isKeyword_openers : ∀ w ∈ openers, IsKeyword w := by decide

/-- The line of a bare head has no semicolon in its code, and no parenthesis. -/
theorem advance_of_isBareHead {content : List Char} (h : isBareHead (bodyOf content) = true) :
    (code.advance content).terminated = false ∧ (code.advance content).depth = 0 := by
  rw [isBareHead, Option.any_eq_true] at h
  rcases h with ⟨⟨head, rest⟩, hhead, hblank⟩
  rw [content_eq hhead, advance_after_head hhead]
  exact advance_of_codeOnly fun c hc => Or.inl (List.all_eq_true.mp hblank c hc)

end Statement

namespace TableName

/-- Where a line begins with a letter and with no guard, a name is found. -/
theorem ofContinuation?_of_isWord {content tail : List Char} {c : Char}
    (hguard : Guard.leading? content = none) (hbody : bodyOf content = c :: tail)
    (hletter : isWord c = true) : ofContinuation? content ≠ none := by
  have htoken : Guard.token? (bodyOf content) = none := by
    rw [Guard.leading?, Option.bind_eq_bind, Option.bind_eq_none_iff] at hguard
    refine Option.eq_none_iff_forall_ne_some.mpr fun token htoken => ?_
    cases hguard token htoken
  -- The name begins with the letter, which ends no name and starts no comment.
  have hends : ['(', ';', ','].all (fun d => !isWord d) = true := by decide
  have hbare : (!isBlank c && !(['(', ';', ','].contains c)) = true := by
    rw [isBlank_eq_false hletter, Bool.not_false, Bool.true_and, Bool.not_eq_true',
      List.contains_eq_mem, decide_eq_false_iff_not]
    intro hc
    have hno := List.all_eq_true.mp hends c hc
    rw [hletter] at hno
    cases hno
  have hdash : c ≠ '-' := by
    rintro rfl
    exact absurd hletter (by decide)
  have hcomment : ∀ more, startsWith ['-', '-'] (c :: more) = false := by
    intro more
    simp [startsWith, List.isPrefixOf, hdash.symm]
  rw [hbody] at htoken
  simp only [ofContinuation?, hbody, htoken, List.takeWhile_cons, hbare, if_true,
    List.isEmpty_cons, hcomment, Bool.or_self, Bool.false_eq_true, if_false]
  exact Option.some_ne_none _

/-- A line that begins a statement is never without a name: if nothing else,
    the first word of the statement is one. -/
theorem ofContinuation?_of_opens {content : List Char}
    (hblock : Statement.isBlockComment (bodyOf content) = false)
    (h : Statement.opens (bodyOf content) = true) : ofContinuation? content ≠ none := by
  have hguard : Guard.leading? content = none := by
    cases hleading : Guard.leading? content with
    | none => rfl
    | some guard =>
        rw [Statement.opens_of_leading? hleading] at h
        cases h
  rw [Statement.opens, hblock, Bool.false_or, List.any_eq_true] at h
  rcases h with ⟨w, hw, hword⟩
  rcases (Option.any_eq_true _ _).mp hword with ⟨rest, hrest, -⟩
  rcases (word?_eq_some_iff _ _ _).mp hrest with ⟨x, hx, hbody⟩
  have hkeyword : ∀ v ∈ [w], IsKeyword v := by
    intro v hv
    rw [List.mem_singleton.mp hv]
    exact Statement.isKeyword_openers w hw
  rcases (spells_one_iff.mpr hx).head hkeyword with ⟨-, -, c, tail, rfl, -, hletter⟩
  exact ofContinuation?_of_isWord hguard hbody hletter

end TableName

/-- The table of a span, once names and guards are filled in. -/
theorem Span.table_fillSplit (lines : List Line) (span : Span) :
    (span.fillSplit lines).table =
      if span.kind = .createTable ∧ span.table = none ∧ span.startLine < span.endLine then
        lines[span.startLine]?.bind fun line => TableName.ofContinuation? line.content
      else span.table := by
  unfold fillSplit
  split
  · rename_i hsplit
    cases lines[span.startLine]? with
    | none => exact hsplit.2.1
    | some next => rfl
  · rfl

namespace Script

/-- The name on the line with the given index, if the line carries a
    `CREATE TABLE` on. -/
def nameOn (script : Script) (k : Nat) : Option (List Char) :=
  script.body[k]?.bind fun line => TableName.ofContinuation? line.content

section Sides

variable {rules : Rules} {script : Script} {k : Nat} {line : Line} {edit : Edit} {span : Span}

/-- A guard is inserted on a line that opens a `CREATE TABLE`, and nowhere
    else. -/
theorem turn_of_insertGuard (h : script.body[k]? = some line)
    (hinsert : (script.turn rules k line.content).treated.action = .insertGuard) :
    script.turn rules k line.content =
      Patch.create rules .code line.content (script.body[k + 1]?.map Line.content) := by
  rcases turn_cases rules h with ⟨-, heq⟩ | ⟨-, table, -, heq⟩ | ⟨-, -, heq⟩ |
    ⟨-, table, guard, -, heq⟩
  · rw [heq] at hinsert
    cases hinsert
  · rw [heq] at hinsert
    cases hinsert
  · exact heq
  · rw [heq] at hinsert
    exact absurd hinsert (mendLeading_ne_insertGuard rules line.content)

/-- The table that an inserted guard is reported with is named below a bare
    head, and on the opening line otherwise. -/
theorem table_of_insertGuard (h : edit ∈ (script.patch rules).edits)
    (hinsert : edit.action = .insertGuard) :
    edit.table =
      if Statement.isBareHead (bodyOf edit.before) then script.nameOn edit.line
      else TableName.ofCreate? (bodyOf edit.before) := by
  rcases (mem_edits_iff rules script edit).mp h with ⟨k, line, hline, -, rfl⟩
  simp only at hinsert ⊢
  rw [turn_of_insertGuard hline hinsert]
  simp only [Patch.create, nameOn, Option.bind_map]
  rfl

/-- The table of a span that opens with a `CREATE TABLE` is named on its first
    line, or else on the second one. -/
theorem table_of_createTable (h : span ∈ script.spans) (hkind : span.kind = .createTable)
    (hline : script.body[span.startLine - 1]? = some line) :
    let own := TableName.ofCreate? (bodyOf line.content)
    span.table =
      if own = none ∧ span.startLine < span.endLine then script.nameOn span.startLine else own := by
  intro own
  rcases List.mem_map.mp h with ⟨raw, hraw, rfl⟩
  rcases Span.fillSplit_eq script.lines raw with ⟨table, guard, heq⟩
  rcases joinedAt_last hraw with ⟨⟨hone, -⟩, -⟩
  rcases exists_opened hraw with ⟨first, hfirst, -, hextends⟩
  have hopening : raw.kind = .createTable ∧ raw.table = own := by
    rw [heq] at hkind hline
    obtain rfl : first = line := Option.some.inj (hfirst.symm.trans hline)
    have hkindOf : Statement.kindOf (bodyOf first.content) = .createTable :=
      hextends.kind.symm.trans hkind
    have htable : raw.table =
        (Statement.kindOf (bodyOf first.content)).tableName? (bodyOf first.content) :=
      hextends.table
    rw [hkindOf] at htable
    exact ⟨hkind, htable⟩
  -- Below the first line the text and its body are the same.
  have hnext : script.lines[raw.startLine]? = script.body[raw.startLine]? := by
    rcases Nat.exists_eq_succ_of_ne_zero (Nat.ne_of_gt hone) with ⟨n, hn⟩
    rw [hn]
    exact getElem?_lines_succ script n
  rw [Span.table_fillSplit, hopening.1, hopening.2, hnext, heq]
  simp only [true_and]
  rfl

/-- The line of a bare head terminates no statement and opens no
    parentheses. -/
theorem quiet_of_isBareHead (hline : script.body[k]? = some line)
    (hcode : script.stateBefore k = .code)
    (hbare : Statement.isBareHead (bodyOf line.content) = true) :
    script.terminates k = false ∧ script.openParens k (k + 1) = 0 := by
  rcases Statement.advance_of_isBareHead hbare with ⟨hterm, hdepth⟩
  refine ⟨?_, ?_⟩
  · rw [terminates_eq hline, hcode, hterm]
  · rw [openParens_self_succ, balance, hline]
    simp only [hcode, hdepth]

/-- A statement goes on after a bare head unless the next line begins
    another. -/
theorem goes_on_iff {next : Line} (h : span ∈ script.spans) (hkind : span.kind = .createTable)
    (hline : script.body[span.startLine - 1]? = some line)
    (hbare : Statement.isBareHead (bodyOf line.content) = true)
    (hnext : script.body[span.startLine]? = some next) :
    span.startLine < span.endLine ↔
      ¬ (script.Active span.startLine next ∧ Statement.opens (bodyOf next.content) = true) := by
  rcases List.mem_map.mp h with ⟨raw, hraw, rfl⟩
  rcases Span.fillSplit_eq script.lines raw with ⟨table, guard, heq⟩
  rw [heq] at hkind hline hnext ⊢
  simp only at hkind hline hnext ⊢
  rcases joinedAt_last hraw with ⟨⟨hone, horder⟩, -⟩
  rcases exists_opened hraw with ⟨first, hfirst, hactive, -⟩
  obtain rfl : first = line := Option.some.inj (hfirst.symm.trans hline)
  rcases quiet_of_isBareHead hline hactive.1 hbare with ⟨hterm, hparens⟩
  rw [Nat.sub_add_cancel hone] at hparens
  -- No parentheses are open, so only what the next line says counts.
  have hstop : script.StopLine raw raw.startLine next ↔
      script.Active raw.startLine next ∧ Statement.opens (bodyOf next.content) = true := by
    rw [StopLine, hkind, if_neg Kind.noConfusion, hparens]
    simp only [Int.le_refl, true_and]
  rw [← hstop]
  constructor
  · intro hlonger
    exact (stays_of_covers hraw hnext (Nat.le_refl _) hlonger).2
  · intro hstays
    by_contra hshort
    -- With no semicolon on it, a span of one line was stopped by the next.
    have hlast : raw.endLine = raw.startLine := by omega
    have hopen : raw.terminated = false := by rw [terminated_eq hraw, hlast, hterm]
    have hstops := stops_after hraw hopen (hlast ▸ hnext)
    rw [hlast] at hstops
    exact hstays hstops

/-- A name that stands below a bare head belongs to its statement, unless the
    next line begins another. -/
theorem nameOn_past_end_iff (h : span ∈ script.spans) (hkind : span.kind = .createTable)
    (hline : script.body[span.startLine - 1]? = some line)
    (hbare : Statement.isBareHead (bodyOf line.content) = true) :
    (¬ span.startLine < span.endLine → script.nameOn span.startLine = none) ↔
      ∀ next, script.body[span.startLine]? = some next → script.Active span.startLine next →
        Statement.opens (bodyOf next.content) = false := by
  constructor
  · intro hnone next hnext hactive
    rw [Bool.eq_false_iff]
    intro hopens
    have hshort : ¬ span.startLine < span.endLine := fun hlonger =>
      (goes_on_iff h hkind hline hbare hnext).mp hlonger ⟨hactive, hopens⟩
    -- The first word of the other statement would be the name.
    have hname := hnone hshort
    rw [nameOn, hnext, Option.bind_some] at hname
    exact TableName.ofContinuation?_of_opens hactive.2.2.2 hopens hname
  · intro hno hshort
    cases hnext : script.body[span.startLine]? with
    | none => rw [nameOn, hnext, Option.bind_none]
    | some next =>
        refine absurd ((goes_on_iff h hkind hline hbare hnext).mpr ?_) hshort
        rintro ⟨hactive, hopens⟩
        rw [hno next hnext hactive] at hopens
        cases hopens

end Sides

/-- The table that an inserted guard is reported with is the table of the span
    that opens on the line, except in three cases: the opening line of a bare
    head names another table than the next line does; a bare head without a
    name is followed by a line that begins a statement of its own; or the code
    after the head has no name, and the statement goes on with a line that has
    one. -/
theorem tables_agree_iff {rules : Rules} {script : Script} {edit : Edit} {span : Span}
    (hedit : edit ∈ (script.patch rules).edits) (hinsert : edit.action = .insertGuard)
    (hspan : span ∈ script.spans) (hkind : span.kind = .createTable)
    (hline : span.startLine = edit.line) :
    let bare := Statement.isBareHead (bodyOf edit.before)
    let own := TableName.ofCreate? (bodyOf edit.before)
    edit.table = span.table ↔
      (bare = true → ∀ name, own = some name → script.nameOn edit.line = some name) ∧
      (bare = true → own = none → ∀ next, script.body[edit.line]? = some next →
        script.Active edit.line next → Statement.opens (bodyOf next.content) = false) ∧
      (bare = false → own = none → span.startLine < span.endLine →
        script.nameOn edit.line = none) := by
  intro bare own
  have hfirst : ∃ line, script.body[span.startLine - 1]? = some line ∧
      line.content = edit.before := by
    rcases (mem_edits_iff rules script edit).mp hedit with ⟨k, line, hk, -, rfl⟩
    rw [hline]
    exact ⟨line, hk, rfl⟩
  rcases hfirst with ⟨line, hfirst, hbefore⟩
  have hreported : edit.table = if bare then script.nameOn edit.line else own :=
    table_of_insertGuard hedit hinsert
  have hscanned : span.table =
      if own = none ∧ span.startLine < span.endLine then script.nameOn span.startLine else own := by
    rw [table_of_createTable hspan hkind hfirst, hbefore]
  rw [hreported, hscanned, ← hline]
  -- Who looks where depends on the head, and on whether its line has a name.
  cases hbare : bare with
  | false =>
      cases hown : own with
      | some name => simp
      | none =>
          -- Only the span looks below, and only if it goes on.
          by_cases hlonger : span.startLine < span.endLine
          · simp [hlonger, @eq_comm _ none]
          · simp [hlonger]
  | true =>
      cases hown : own with
      | some name => simp
      | none =>
          -- Both look below, but the span no further than where it ends.
          have hcut := nameOn_past_end_iff hspan hkind hfirst (by rw [hbefore]; exact hbare)
          simp only [true_and, if_true, true_implies, reduceCtorEq, false_implies, implies_true,
            and_true]
          rw [← hcut]
          by_cases hlonger : span.startLine < span.endLine
          · simp [hlonger]
          · simp [hlonger]

/-- Where nothing but the head stands on the first line, both tables are named
    on the second. -/
theorem tables_agree_below :
    let script : Script := ⟨"CREATE TABLE\nfoo (id INT);\n".toList⟩
    let span : Span := ⟨.createTable, 1, 2, 0, 27, [], some "foo".toList, none, true⟩
    span ∈ script.spans ∧ ∃ edit ∈ (script.patch {}).edits, edit.table = span.table := by
  intro script span
  let edit : Edit := ⟨1, .insertGuard, .createTable, some "foo".toList, "CREATE TABLE".toList,
    "CREATE TABLE IF NOT EXISTS".toList⟩
  have hedit : edit ∈ (script.patch {}).edits := by decide
  have hspan : span ∈ script.spans := by decide
  have hno : TableName.ofCreate? (bodyOf edit.before) = none := by decide
  refine ⟨hspan, edit, hedit, (tables_agree_iff hedit rfl hspan rfl rfl).mpr ⟨?_, ?_, ?_⟩⟩
  · intro _ name hname
    rw [hno] at hname
    cases hname
  · intro _ _ next hnext _
    obtain rfl : ⟨"foo (id INT);".toList, .lf⟩ = next := Option.some.inj hnext
    decide
  · intro hbare
    exact absurd hbare (by decide)

/-- A quoted name after the head is passed over. -/
theorem table_passed_over :
    ¬ ∀ (rules : Rules) (script : Script), ∀ edit ∈ (script.patch rules).edits,
      edit.action = .insertGuard → ∀ span ∈ script.spans, span.kind = .createTable →
        span.startLine = edit.line → edit.table = span.table := by
  intro h
  have htable := h {} ⟨"CREATE TABLE \x60foo\x60\n(id INT);\n".toList⟩
    ⟨1, .insertGuard, .createTable, none, "CREATE TABLE \x60foo\x60".toList,
      "CREATE TABLE IF NOT EXISTS \x60foo\x60".toList⟩ (by decide) rfl
    ⟨.createTable, 1, 2, 0, 29, [], some "foo".toList, none, true⟩ (by decide) rfl rfl
  exact absurd htable (by decide)

end Script

end Rerun
