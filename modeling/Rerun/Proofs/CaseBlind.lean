import Rerun.Proofs.LetterCase
import Rerun.Proofs.SpanLines
import Rerun.Patch

/-!
# Deciding in Either Case

Two scripts that are equal in lower case are treated alike. A pass makes the
same edits on the same lines, and what it writes is equal in lower case again. A
scan finds the same statements in the same places, and their tables have the same
names in lower case.

A scan writes nothing, so it commutes with lower case: scanning a script in lower
case gives the spans in lower case. A pass does not quite. The clause that it
writes is in upper case, whatever the case of the script, so the two ways around
meet only in lower case. That is enough to go from line to line, because the
lexical state that a line leaves behind is the same in either case.

## Main definitions

* `Edit.lower`, `Span.lower`: What is reported, in lower case.
* `Patch.State.lower`, `Patch.Turn.lower`, `Cursor.lower`: The states on the way,
  in lower case.

## Theorems

* `Patch.lower_treat`: A line is treated alike in either case.
* `Patch.lower_run`: The runs over lines that are equal in lower case.
* `Cursor.read_lower`, `Cursor.scan_lower`: A scan commutes with lower case.
* `Script.spans_lower`: The statements of a script in lower case.
* `Script.lower_decides`: Scripts that are equal in lower case are treated alike.
-/

namespace Rerun

open Text LexState

namespace Treated

/-- A line as it is written, in lower case. -/
def lower (treated : Treated) : Treated :=
  ⟨treated.action, Text.lower treated.text⟩

@[simp]
theorem lower_kept_lower (content : List Char) :
    (kept (Text.lower content)).lower = (kept content).lower := by
  simp only [lower, kept, lower_lower]

end Treated

/-- An edit in lower case. The line, the action and the kind are as they are. -/
def Edit.lower (edit : Edit) : Edit :=
  { edit with
    table := edit.table.map Text.lower
    before := Text.lower edit.before
    after := Text.lower edit.after }

theorem commentOut_lower (content : List Char) :
    commentOut (lower content) = lower (commentOut content) := by
  have hindent : lower (indentOf content) = indentOf content :=
    lower_of_blank fun c => isBlank_of_mem_indentOf
  rw [commentOut, indentOf_lower, bodyOf_lower, commentOut, lower_append, lower_append,
    lower_append, hindent]
  rfl

theorem lower_insertGuard_lower (indent head rest : List Char) :
    lower (insertGuard indent (lower head) (lower rest)) =
      lower (insertGuard indent head rest) := by
  have hlast : (lower head).getLast?.any isBlank = head.getLast?.any isBlank := by
    rw [lower, List.getLast?_map]
    cases head.getLast? with
    | none => rfl
    | some c => exact isBlank_toLower c
  simp only [insertGuard, hlast, isEmpty_lower, lower_append, lower_lower]

theorem lower_guardCreate (rules : Rules) (content : List Char) (follows : Bool) :
    (guardCreate rules (lower content) follows).lower =
      (guardCreate rules content follows).lower := by
  simp only [guardCreate, indentOf_lower, bodyOf_lower, Statement.createHead?_lower]
  cases Statement.createHead? (bodyOf content) with
  | none => exact Treated.lower_kept_lower content
  | some parts =>
      simp only [Option.map_some, Prod.map, Guard.find?_lower]
      cases Guard.find? parts.2 with
      | some guard =>
          dsimp only
          split
          · simp only [Treated.lower, lower_append, lower_lower, Guard.lower_mend_lower]
          · exact Treated.lower_kept_lower content
      | none =>
          dsimp only
          split
          · exact Treated.lower_kept_lower content
          · simp only [Treated.lower, lower_insertGuard_lower]

theorem lower_mendLeading (rules : Rules) (content : List Char) :
    (mendLeading rules (lower content)).lower = (mendLeading rules content).lower := by
  rw [mendLeading, Guard.leading?_lower, mendLeading]
  cases Guard.leading? content with
  | none => exact Treated.lower_kept_lower content
  | some guard =>
      dsimp only
      split
      · simp only [Treated.lower, Guard.lower_mend_lower]
      · exact Treated.lower_kept_lower content

namespace Patch

/-- A phase in lower case. -/
def Phase.lower : Phase → Phase
  | free => free
  | dropping table => dropping (table.map Text.lower)
  | guarding table => guarding (table.map Text.lower)

/-- A state of the pass in lower case. -/
def State.lower (state : State) : State :=
  ⟨state.lex, state.phase.lower⟩

/-- A turn in lower case. -/
def Turn.lower (turn : Turn) : Turn :=
  { turn with
    treated := turn.treated.lower
    table := turn.table.map Text.lower
    phase := turn.phase.lower }

theorem Turn.edit?_lower (turn : Turn) (number : Nat) (content : List Char) :
    turn.lower.edit? number (Text.lower content) = (turn.edit? number content).map Edit.lower := by
  by_cases hkeep : turn.treated.action = .keep
  · have hkeep' : turn.lower.treated.action = .keep := hkeep
    rw [edit?, edit?, if_pos hkeep, if_pos hkeep']
    rfl
  · have hkeep' : ¬ turn.lower.treated.action = .keep := hkeep
    rw [edit?, edit?, if_neg hkeep, if_neg hkeep']
    rfl

theorem State.next_lower {state : State} (hlex : state.lex.Real) (turn : Turn) :
    state.lower.next turn.lower = (state.next turn).lower := by
  simp only [State.next, State.lower, Turn.lower, Treated.lower, advance_lower hlex]

section Lines

variable {lex : LexState} (content : List Char) (next : Option (List Char))

theorem lower_pass : (pass (Text.lower content)).lower = (pass content).lower := by
  simp only [pass, Turn.lower, Treated.lower_kept_lower]

theorem lower_drop (table : Option (List Char)) :
    (drop (table.map Text.lower) (Text.lower content)).lower = (drop table content).lower := by
  simp only [drop, advance_lower real_code, commentOut_lower, Turn.lower, Treated.lower,
    lower_lower, map_lower_lower]
  split
  · rfl
  · simp only [Phase.lower, map_lower_lower]

theorem guardBelow?_lower (hlex : lex.Real) :
    guardBelow? lex (Text.lower content) (next.map Text.lower) = guardBelow? lex content next := by
  have hleading : (next.map Text.lower).bind Guard.leading? = next.bind Guard.leading? := by
    cases next with
    | none => rfl
    | some line => exact Guard.leading?_lower line
  rw [guardBelow?, bodyOf_lower, Statement.isBareHead_lower, advance_lower hlex, hleading,
    guardBelow?]

theorem lower_create (rules : Rules) (hlex : lex.Real) :
    (create rules lex (Text.lower content) (next.map Text.lower)).lower =
      (create rules lex content next).lower := by
  have htable : (if Statement.isBareHead (bodyOf content) then
        (next.map Text.lower).bind TableName.ofContinuation?
      else TableName.ofCreate? (Text.lower (bodyOf content))) =
      (if Statement.isBareHead (bodyOf content) then next.bind TableName.ofContinuation?
        else TableName.ofCreate? (bodyOf content)).map Text.lower := by
    split
    · cases next with
      | none => rfl
      | some line => exact TableName.ofContinuation?_lower line
    · exact TableName.ofCreate?_lower (bodyOf content)
  simp only [create, bodyOf_lower, Statement.isBareHead_lower, Statement.guardOf?_lower,
    guardBelow?_lower content next hlex, htable, Turn.lower, lower_guardCreate, map_lower_lower]
  by_cases hbelow : (guardBelow? lex content next).isSome = true
  · simp only [if_pos hbelow, Phase.lower, map_lower_lower]
  · simp only [if_neg hbelow]

theorem lower_plain (rules : Rules) (hlex : lex.Real) :
    (plain rules lex (Text.lower content) (next.map Text.lower)).lower =
      (plain rules lex content next).lower := by
  simp only [plain, bodyOf_lower, isEmpty_lower, Statement.isComment_lower, Statement.kindOf_lower,
    TableName.ofDrop?_lower]
  split
  · exact lower_pass content
  · cases Statement.kindOf (bodyOf content) with
    | dropTable =>
        dsimp only
        split
        · exact lower_drop content _
        · exact lower_pass content
    | createTable => exact lower_create content next rules hlex
    | other => exact lower_pass content

/-- A line is treated alike in either case. -/
theorem lower_treat (rules : Rules) {state : State} (hlex : state.lex.Real) :
    (treat rules state.lower (Text.lower content) (next.map Text.lower)).lower =
      (treat rules state content next).lower := by
  have hplain := lower_plain content next rules hlex
  rcases state with ⟨lex, phase⟩
  cases phase with
  | free => exact hplain
  | dropping table =>
      simp only [treat, State.lower, Phase.lower, bodyOf_lower, Statement.continuesDrop_lower]
      split
      · exact lower_drop content table
      · exact hplain
  | guarding table =>
      simp only [treat, State.lower, Phase.lower, Turn.lower, lower_mendLeading, map_lower_lower]

end Lines

/-- What the pass has produced, in lower case. -/
def Result.lower (result : Result) : Result :=
  { result with
    lines := result.lines.map Line.lower
    edits := result.edits.map Edit.lower }

/-- A run in lower case is made of its first turn in lower case and of the rest of
    the run in lower case. -/
theorem lower_run_cons (rules : Rules) (state : State) (number : Nat) (line : Line)
    (rest : List Line) {turn : Turn} {tail : Result}
    (hturn : treat rules state line.content (rest.head?.map Line.content) = turn)
    (htail : run rules (state.next turn) (number + 1) rest = tail) :
    (run rules state number (line :: rest)).lower =
      { lines := ⟨turn.lower.treated.text, line.ending⟩ :: tail.lower.lines
        edits := (turn.lower.edit? number (Text.lower line.content)).toList ++ tail.lower.edits
        guarded := (if turn.lower.guarded then 1 else 0) + tail.lower.guarded
        last := tail.lower.last } := by
  rw [run, hturn, htail, Turn.edit?_lower, Result.lower, List.map_append, Option.toList_map]
  rfl

/-- Runs that start alike over lines that are equal in lower case are alike. -/
theorem lower_run (rules : Rules) {state other : State} (hlex : state.lex.Real)
    (hstate : other.lower = state.lower) (number : Nat) {lines others : List Line}
    (h : others.map Line.lower = lines.map Line.lower) :
    (run rules other number others).lower = (run rules state number lines).lower := by
  have hlex' : other.lex.Real := by
    have hsame := congrArg State.lex hstate
    change other.lex = state.lex at hsame
    rwa [hsame]
  induction lines generalizing state other number others with
  | nil =>
      rw [List.map_nil, List.map_eq_nil_iff] at h
      have hlast := congrArg State.lex hstate
      rw [h]
      exact congrArg (Result.mk [] [] 0) hlast
  | cons line rest ih =>
      cases others with
      | nil => cases h
      | cons line' rest' =>
          rw [List.map_cons, List.map_cons, List.cons.injEq] at h
          rcases h with ⟨hline, hrest⟩
          have hcontent := congrArg Line.content hline
          have hending := congrArg Line.ending hline
          change Text.lower line'.content = Text.lower line.content at hcontent
          change line'.ending = line.ending at hending
          -- The line that is looked ahead to is equal in lower case too.
          have hhead : ∀ lines : List Line, (lines.head?.map Line.content).map Text.lower =
              (lines.map Line.lower).head?.map Line.content := by
            intro lines
            cases lines <;> rfl
          have hturn : (treat rules other line'.content (rest'.head?.map Line.content)).lower =
              (treat rules state line.content (rest.head?.map Line.content)).lower := by
            rw [← lower_treat _ _ rules hlex, ← lower_treat _ _ rules hlex', hstate, hcontent,
              hhead, hhead, hrest]
          -- What the two lines leave behind is alike again.
          have hnext := congrArg₂ State.next hstate hturn
          rw [State.next_lower hlex, State.next_lower hlex'] at hnext
          have htail := ih (real_advance hlex _) hnext (number + 1) hrest (real_advance hlex' _)
          rw [lower_run_cons rules other number line' rest' rfl rfl,
            lower_run_cons rules state number line rest rfl rfl, hturn, htail, hcontent, hending]

end Patch

@[simp]
theorem Statement.eligible_lower (startsInCode : Bool) (body : List Char) :
    eligible startsInCode (lower body) = eligible startsInCode body := by
  rw [eligible, isEmpty_lower, isComment_lower, isBlockComment_lower, eligible]

namespace Span

/-- A span in lower case. Only the name of a table has a case. -/
def lower (span : Span) : Span :=
  { span with table := span.table.map Text.lower }

theorem opening_lower (number offset size : Nat) (content : List Char) (terminated : Bool) :
    opening number offset size (Text.lower content) terminated =
      (opening number offset size content terminated).lower := by
  simp only [opening, lower, bodyOf_lower, indentOf_lower, Statement.kindOf_lower,
    Statement.guardOf?_lower, Kind.tableName?_lower]

theorem stopsBefore_lower (span : Span) (depth : Int) (startsInCode : Bool) (body : List Char) :
    span.lower.stopsBefore depth startsInCode (Text.lower body) =
      span.stopsBefore depth startsInCode body := by
  simp only [stopsBefore, lower, Statement.continuesDrop_lower, Statement.eligible_lower,
    Statement.opens_lower]

theorem fillSplit_lower (lines : List Line) (span : Span) :
    span.lower.fillSplit (lines.map Line.lower) = (span.fillSplit lines).lower := by
  have hsplit : span.lower.kind = .createTable ∧ span.lower.table = none ∧
      span.lower.startLine < span.lower.endLine ↔
      span.kind = .createTable ∧ span.table = none ∧ span.startLine < span.endLine := by
    simp only [lower, Option.map_eq_none_iff]
  -- Lower case neither gives a span a table nor takes one away.
  by_cases h : span.kind = .createTable ∧ span.table = none ∧ span.startLine < span.endLine
  · have hline : (lines.map Line.lower)[span.lower.startLine]? =
        lines[span.startLine]?.map Line.lower := List.getElem?_map
    rw [fillSplit, fillSplit, if_pos (hsplit.mpr h), if_pos h, hline]
    cases lines[span.startLine]? with
    | none => rfl
    | some next =>
        simp only [Option.map_some, Line.content_lower, Guard.leading?_lower,
          TableName.ofContinuation?_lower]
        rfl
  · rw [fillSplit, fillSplit, if_neg (fun hlower => h (hsplit.mp hlower)), if_neg h]

end Span

namespace Cursor

/-- A cursor in lower case. -/
def lower (cursor : Cursor) : Cursor :=
  { cursor with current := cursor.current.map (Prod.map Span.lower id) }

variable {cursor : Cursor} (content : List Char) (size : Nat)

theorem closed_lower :
    cursor.lower.closed (Text.lower content) = (cursor.closed content).map Span.lower := by
  rcases cursor with ⟨lex, number, offset, current⟩
  rcases current with _ | ⟨span, depth⟩
  · rfl
  · simp only [closed, lower, Option.map_some, Prod.map, bodyOf_lower, Span.stopsBefore_lower, id]
    split <;> rfl

theorem fresh_lower (hlex : cursor.lex.Real) :
    cursor.lower.fresh (Text.lower content) size =
      (cursor.fresh content size).map (Prod.map Span.lower id) := by
  simp only [fresh, opened, lower, bodyOf_lower, Statement.eligible_lower, advance_lower hlex,
    Span.opening_lower]
  split <;> rfl

theorem joined_lower (hlex : cursor.lex.Real) :
    cursor.lower.joined (Text.lower content) size =
      (cursor.joined content size).map (Prod.map Span.lower id) := by
  have hfresh := fresh_lower content size hlex
  rcases cursor with ⟨lex, number, offset, current⟩
  rcases current with _ | ⟨span, depth⟩
  · exact hfresh
  · simp only [joined, lower, Option.map_some, Prod.map, bodyOf_lower, Span.stopsBefore_lower, id]
    split
    · exact hfresh
    · simp only [grown, advance_lower hlex]
      rfl

/-- Reading a line commutes with lower case. -/
theorem read_lower (hlex : cursor.lex.Real) :
    cursor.lower.read (Text.lower content) size =
      ((cursor.read content size).1.map Span.lower, (cursor.read content size).2.lower) := by
  have heffect : cursor.lower.lex.advance (Text.lower content) = cursor.lex.advance content :=
    advance_lower hlex content
  have honward : ∀ current : Option (Span × Int),
      cursor.lower.onward (Text.lower content) size (current.map (Prod.map Span.lower id)) =
        (cursor.onward content size current).lower := by
    intro current
    simp only [onward, lower, advance_lower hlex]
  rw [read_eq, read_eq, heffect, closed_lower, joined_lower content size hlex, honward]
  split
  · rw [← honward, List.map_append]
    cases cursor.joined content size <;> rfl
  · rfl

/-- A scan commutes with lower case. -/
theorem scan_lower (hlex : cursor.lex.Real) (lead : Nat) (lines : List Line) :
    cursor.lower.scan lead (lines.map Line.lower) = (cursor.scan lead lines).map Span.lower := by
  induction lines generalizing cursor lead with
  | nil =>
      simp only [List.map_nil, scan, lower]
      cases cursor.current <;> rfl
  | cons line rest ih =>
      have hnext : (cursor.read line.content (lead + line.size)).2.lex.Real := by
        rw [lex_read]
        exact real_advance hlex line.content
      rw [List.map_cons, scan_cons, scan_cons, Line.content_lower, Line.size_lower,
        read_lower _ _ hlex, ih hnext, List.map_append]

end Cursor

namespace Script

/-- The statements of a script in lower case. -/
theorem spans_lower (script : Script) : script.lower.spans = script.spans.map Span.lower := by
  have hscan : Cursor.start.scan (Utf8.size script.mark) (script.body.map Line.lower) =
      (Cursor.start.scan (Utf8.size script.mark) script.body).map Span.lower :=
    @Cursor.scan_lower .start real_code _ _
  rw [spans, mark_lower, body_lower, hscan, lines_lower, spans, List.map_map, List.map_map]
  exact List.map_congr_left fun span _ => Span.fillSplit_lower script.lines span

variable {script other : Script}

/-- Scripts that are equal in lower case are patched alike: the same lines are
    changed, by the same actions and for statements of the same kinds, and the
    names and the texts of the edits are equal in lower case. So is what is
    written. Their statements are the same, up to the case of their tables. -/
theorem lower_decides (rules : Rules) (h : Text.lower other.text = Text.lower script.text) :
    ((other.patch rules).edits.map Edit.lower = (script.patch rules).edits.map Edit.lower ∧
      (other.patch rules).lines = (script.patch rules).lines ∧
      (other.patch rules).guarded = (script.patch rules).guarded ∧
      (other.patch rules).last = (script.patch rules).last ∧
      Text.lower (other.patch rules).text = Text.lower (script.patch rules).text) ∧
    other.spans.map Span.lower = script.spans.map Span.lower := by
  have hlower : other.lower = script.lower := congrArg Script.mk h
  have hbody : other.body.map Line.lower = script.body.map Line.lower := by
    rw [← body_lower, ← body_lower, hlower]
  have hmark : other.mark = script.mark := by
    rw [← mark_lower other, hlower, mark_lower]
  have hlines : other.lines.length = script.lines.length := by
    have hlength := congrArg (fun s : Script => s.lines.length) hlower
    simpa only [lines_lower, List.length_map] using hlength
  have hrun : (Patch.run rules .start 1 other.body).lower =
      (Patch.run rules .start 1 script.body).lower :=
    Patch.lower_run rules real_code rfl 1 hbody
  have hwritten := congrArg Patch.Result.lines hrun
  have hedits := congrArg Patch.Result.edits hrun
  have hguarded := congrArg Patch.Result.guarded hrun
  have hlast := congrArg Patch.Result.last hrun
  refine ⟨⟨hedits, hlines, hguarded, hlast, ?_⟩, ?_⟩
  · rw [patch, patch, lower_append, lower_append, lower_joinLines, lower_joinLines, hmark]
    exact congrArg (fun lines => Text.lower script.mark ++ joinLines lines) hwritten
  · rw [← spans_lower, ← spans_lower, hlower]

/-- A script in lower case is patched on the same lines as one in mixed case, and
    the clauses that are written are in upper case in both. -/
theorem lower_decides_mixed :
    Text.lower "Drop Table A;\nCREATE TABLE\nIf Not Exist B (x);".toList =
        Text.lower "drop table a;\ncreate table\nif not exist b (x);".toList ∧
      ((Script.mk "Drop Table A;\nCREATE TABLE\nIf Not Exist B (x);".toList).patch {}).edits.map
          Edit.lower =
        [⟨1, .commentOut, .dropTable, some ['a'], "drop table a;".toList,
            "-- drop table a;".toList⟩,
          ⟨3, .fixTypo, .createTable, some ['b'], "if not exist b (x);".toList,
            "if not exists b (x);".toList⟩] :=
  ⟨by decide, (@lower_decides ⟨"drop table a;\ncreate table\nif not exist b (x);".toList⟩ _ {}
    (by decide)).1.1.trans (by decide)⟩

end Script

end Rerun
