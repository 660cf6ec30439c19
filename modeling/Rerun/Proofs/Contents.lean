import Rerun.Proofs.AlikeScans
import Rerun.Proofs.LinePatch

/-!
# Only Contents Decide

Two scripts may differ in how their lines end and in whether a byte order mark
stands before the first one, and agree in the contents of their lines. No
decision depends on the difference. A pass over the two makes the same edits,
and each script keeps its own terminators and its own mark. A scan of the two
finds the same statements, and only the byte offsets differ, since terminators
and the mark take up bytes.

For the pass this is an induction over the lines: neither a turn nor the state
after it depends on a terminator, and the line that is looked ahead to is looked
at for its content. For the scan it is an instance of two scans side by side,
with the offsets left out of the comparison. What is left is the name and the
guard that are filled in from the line below a bare head. That line is taken
from the lines with the mark, but it is never the first one.

## Main definitions

* `Span.unplaced`, `Span.Moved`: Spans without their byte offsets.

## Theorems

* `Patch.run_of_contents`: The runs over lines of equal contents.
* `Statement.allAlike_of_contents`: A scan treats lines of equal contents alike.
* `Span.moved_fillSplit`: Filling in depends on the content of one line.
* `Script.getElem?_lines_succ`: The mark is on the first line only.
* `Script.unplaced_spans`: The statements of scripts of equal contents.
* `Script.contents_decide`: Terminators and marks decide nothing.
-/

namespace Rerun

open Text LexState

namespace Patch

/-- Runs over lines of equal contents make the same edits, count the same
    guards, end in the same state and write equal contents. -/
theorem run_of_contents (rules : Rules) (state : State) (number : Nat) {lines others : List Line}
    (h : others.map Line.content = lines.map Line.content) :
    (run rules state number others).edits = (run rules state number lines).edits ∧
      (run rules state number others).guarded = (run rules state number lines).guarded ∧
      (run rules state number others).last = (run rules state number lines).last ∧
      (run rules state number others).lines.map Line.content =
        (run rules state number lines).lines.map Line.content := by
  induction lines generalizing others state number with
  | nil =>
      rw [List.map_nil, List.map_eq_nil_iff] at h
      rw [h]
      exact ⟨rfl, rfl, rfl, rfl⟩
  | cons line rest ih =>
      cases others with
      | nil => cases h
      | cons other rest' =>
          rw [List.map_cons, List.map_cons, List.cons.injEq] at h
          rcases h with ⟨hline, hrest⟩
          -- The line that is looked ahead to has the same content too.
          have hnext : rest'.head?.map Line.content = rest.head?.map Line.content := by
            rw [← List.head?_map, ← List.head?_map, hrest]
          simp only [run, hline, hnext, List.map_cons]
          rcases ih (state.next (treat rules state line.content (rest.head?.map Line.content)))
            (number + 1) hrest with ⟨hedits, hguarded, hlast, hlines⟩
          rw [hedits, hguarded, hlast, hlines]
          exact ⟨rfl, rfl, rfl, rfl⟩

end Patch

namespace Span

/-- A span without its byte offsets. -/
def unplaced (span : Span) : Span :=
  { span with startOffset := 0, endOffset := 0 }

/-- Two spans that differ in their byte offsets at most. -/
def Moved (span other : Span) : Prop :=
  other.unplaced = span.unplaced

theorem comparison_moved : Comparison Moved := by
  refine ⟨?_, ?_⟩
  · intro span other h
    have hkind := congrArg Span.kind (show other.unplaced = span.unplaced from h)
    exact hkind
  · intro span other h number stop stop' terminated
    exact congrArg (fun s : Span => s.grow number 0 terminated)
      (show other.unplaced = span.unplaced from h)

/-- What is filled in depends on the content of the line after the first one
    of the span. -/
theorem moved_fillSplit {lines others : List Line} {span other : Span} (h : span.Moved other)
    (hnext : others[span.startLine]?.map Line.content = lines[span.startLine]?.map Line.content) :
    (span.fillSplit lines).Moved (other.fillSplit others) := by
  -- Up to its offsets the other span is the span itself.
  obtain ⟨start, stop, rfl⟩ : ∃ start stop,
      other = { span with startOffset := start, endOffset := stop } := by
    simp only [Moved, unplaced, Span.mk.injEq] at h
    rcases h with ⟨hkind, hfirst, hlast, -, -, hindent, htable, hguard, hterm⟩
    refine ⟨other.startOffset, other.endOffset, ?_⟩
    rw [← hkind, ← hfirst, ← hlast, ← hindent, ← htable, ← hguard, ← hterm]
  by_cases hsplit : span.kind = .createTable ∧ span.table = none ∧ span.startLine < span.endLine
  · simp only [Moved, fillSplit, if_pos hsplit]
    cases hline : lines[span.startLine]? with
    | none =>
        rw [hline, Option.map_none, Option.map_eq_none_iff] at hnext
        simp only [hnext]
        rfl
    | some line =>
        rw [hline, Option.map_some, Option.map_eq_some_iff] at hnext
        rcases hnext with ⟨line', hline', hcontent⟩
        simp only [hline', hcontent]
        rfl
  · simp only [Moved, fillSplit, if_neg hsplit]
    rfl

end Span

/-- A scan treats lines of equal contents alike. -/
theorem Statement.allAlike_of_contents (lex : LexState) {lines others : List Line}
    (h : others.map Line.content = lines.map Line.content) :
    AllAlike Span.Moved lex lines others := by
  induction lines generalizing others lex with
  | nil =>
      rw [List.map_nil, List.map_eq_nil_iff] at h
      rw [h]
      exact .nil
  | cons line rest ih =>
      cases others with
      | nil => cases h
      | cons other rest' =>
          rw [List.map_cons, List.map_cons, List.cons.injEq] at h
          refine .cons ?_ (ih _ h.2)
          rw [h.1]
          exact ⟨rfl, rfl, rfl, rfl, fun _ _ _ _ _ _ => rfl⟩

namespace Script

/-- The mark is on the first line only. -/
theorem getElem?_lines_succ (script : Script) (k : Nat) :
    script.lines[k + 1]? = script.body[k + 1]? := by
  unfold body
  cases script.lines with
  | nil => rfl
  | cons line rest => rfl

variable {script other : Script}

/-- The statements of scripts of equal contents differ in their byte offsets at
    most. -/
theorem unplaced_spans (h : other.body.map Line.content = script.body.map Line.content) :
    other.spans.map Span.unplaced = script.spans.map Span.unplaced := by
  have hstart : Cursor.start.Alike Span.Moved Cursor.start := ⟨rfl, rfl, .none⟩
  have hscan := hstart.scan Span.comparison_moved (Statement.allAlike_of_contents .code h)
    (Utf8.size script.mark) (Utf8.size other.mark)
  -- The line that a name is filled in from is not the first one.
  have hnext : ∀ n, 1 ≤ n →
      other.lines[n]?.map Line.content = script.lines[n]?.map Line.content := by
    intro n hn
    obtain ⟨k, rfl⟩ := Nat.exists_eq_add_of_le' hn
    rw [getElem?_lines_succ, getElem?_lines_succ, ← List.getElem?_map, ← List.getElem?_map, h]
  have hpos : ∀ span ∈ Cursor.start.scan (Utf8.size script.mark) script.body,
      1 ≤ span.startLine := fun span => Cursor.one_le_startLine
  simp only [spans]
  generalize Cursor.start.scan (Utf8.size script.mark) script.body = found at hscan hpos
  generalize Cursor.start.scan (Utf8.size other.mark) other.body = found' at hscan
  induction hscan with
  | nil => rfl
  | @cons span span' rest rest' hmoved _ ih =>
      rw [List.forall_mem_cons] at hpos
      have hspan := Span.moved_fillSplit hmoved (hnext span.startLine hpos.1)
      simp only [List.map_cons]
      rw [show _ = _ from hspan, ih hpos.2]

/-- Scripts of equal contents are patched by the same edits, and have as many
    lines, as many guards and the same state at the end. What is written has
    equal contents again, and each script keeps its terminators and its mark.
    Their statements differ in their byte offsets at most. -/
theorem contents_decide (rules : Rules)
    (h : other.body.map Line.content = script.body.map Line.content) :
    ((other.patch rules).edits = (script.patch rules).edits ∧
      (other.patch rules).lines = (script.patch rules).lines ∧
      (other.patch rules).guarded = (script.patch rules).guarded ∧
      (other.patch rules).last = (script.patch rules).last) ∧
    ((other.patched rules).body.map Line.content = (script.patched rules).body.map Line.content ∧
      ∀ s ∈ [script, other], (s.patched rules).lines.map Line.ending = s.lines.map Line.ending ∧
        (s.patched rules).mark = s.mark) ∧
    other.spans.map Span.unplaced = script.spans.map Span.unplaced := by
  rcases Patch.run_of_contents rules .start 1 h with ⟨hedits, hguarded, hlast, hlines⟩
  refine ⟨⟨hedits, ?_, hguarded, hlast⟩, ⟨?_, ?_⟩, unplaced_spans h⟩
  · have hlength := congrArg List.length h
    rw [List.length_map, List.length_map, length_body, length_body] at hlength
    exact hlength
  · rw [body_patched, body_patched]
    exact hlines
  · intro s _
    exact ⟨map_ending_patched rules s, mark_patched rules s⟩

/-- A script with a mark and three ways to end a line, and one with neither. -/
theorem contents_decide_mixed :
    ((Script.mk "\uFEFFDROP TABLE a\r\n, b;\nCREATE TABLE\r\nif not exist c;".toList).patch
        {}).edits =
      [⟨1, .commentOut, .dropTable, some ['a'], "DROP TABLE a".toList, "-- DROP TABLE a".toList⟩,
        ⟨2, .commentOut, .dropTable, some ['a'], ", b;".toList, "-- , b;".toList⟩,
        ⟨4, .fixTypo, .createTable, some ['c'], "if not exist c;".toList,
          "IF NOT EXISTS c;".toList⟩] := by
  refine (@contents_decide ⟨"DROP TABLE a\n, b;\nCREATE TABLE\nif not exist c;\n".toList⟩ _ {}
    (by decide)).1.1.trans (by decide)

end Script

end Rerun
