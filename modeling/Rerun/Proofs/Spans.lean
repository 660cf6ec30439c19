import Rerun.Span
import Rerun.Proofs.Turns

/-!
# Where Spans Open

The scan of a script for its statements, and the lines on which its spans
open.

`read_cases` says all that reading one line can do to a scan, so that no
other proof opens `read`. A line first may end the open span, and then opens
a new one if it is eligible; or it belongs to the open span, which grows.

From it follows what is known of every span. It opens on a line that starts in
code, it is of the kind that this line opens, and it does not end before it
begins (`exists_opensOn`).

## Main definitions

* `Cursor.Closes`: The span that ends before a line.
* `Cursor.openNew`: What a line does that belongs to no open span.
* `Span.OpensOn`: A span that opens on a given line.
* `Cursor.Sound`: A cursor whose open span opens on a line already read.

## Theorems

* `Cursor.read_cases`: What one line does to a scan.
* `Cursor.Sound.read`: Reading a line keeps a cursor sound.
* `Script.exists_opensOn`: Every span opens on a line of its script.
-/

namespace Rerun

open Text LexState

namespace Cursor

/-- The spans that end before a line is read: the open one, if it stops
    there. -/
def Closes (cursor : Cursor) (content : List Char) (finished : List Span) : Prop :=
  cursor.current = none ∧ finished = [] ∨
    ∃ span depth, cursor.current = some (span, depth) ∧
      span.stopsBefore depth (cursor.lex == .code) (bodyOf content) = true ∧ finished = [span]

/-- The cursor after a line that leaves the given span open. -/
def onward (cursor : Cursor) (content : List Char) (size : Nat) (current : Option (Span × Int)) :
    Cursor :=
  { lex := (cursor.lex.advance content).last
    number := cursor.number + 1
    offset := cursor.offset + size
    current }

/-- The span that a line opens. -/
def opened (cursor : Cursor) (content : List Char) (size : Nat) : Span :=
  Span.opening cursor.number cursor.offset size content (cursor.lex.advance content).terminated

/-- The open span with a line added. -/
def grown (cursor : Cursor) (span : Span) (content : List Char) (size : Nat) : Span :=
  span.grow cursor.number (cursor.offset + size) (cursor.lex.advance content).terminated

/-- What a line does that belongs to no open span: it opens a span if it can,
    and a semicolon ends it at once. -/
def openNew (cursor : Cursor) (content : List Char) (size : Nat) (finished : List Span) :
    List Span × Cursor :=
  if Statement.eligible (cursor.lex == .code) (bodyOf content) then
    if (cursor.lex.advance content).terminated then
      (finished ++ [cursor.opened content size], cursor.onward content size none)
    else
      (finished, cursor.onward content size
        (some (cursor.opened content size, (cursor.lex.advance content).depth)))
  else (finished, cursor.onward content size none)

theorem openNew_cases (cursor : Cursor) (content : List Char) (size : Nat)
    (finished : List Span) :
    (Statement.eligible (cursor.lex == .code) (bodyOf content) = false ∧
      cursor.openNew content size finished = (finished, cursor.onward content size none)) ∨
    (Statement.eligible (cursor.lex == .code) (bodyOf content) = true ∧
      (cursor.lex.advance content).terminated = true ∧
      cursor.openNew content size finished =
        (finished ++ [cursor.opened content size], cursor.onward content size none)) ∨
    (Statement.eligible (cursor.lex == .code) (bodyOf content) = true ∧
      (cursor.lex.advance content).terminated = false ∧
      cursor.openNew content size finished = (finished, cursor.onward content size
        (some (cursor.opened content size, (cursor.lex.advance content).depth)))) := by
  unfold openNew
  cases Statement.eligible (cursor.lex == .code) (bodyOf content) with
  | false => exact Or.inl ⟨rfl, rfl⟩
  | true =>
      cases (cursor.lex.advance content).terminated with
      | true => exact Or.inr (Or.inl ⟨rfl, rfl, rfl⟩)
      | false => exact Or.inr (Or.inr ⟨rfl, rfl, rfl⟩)

/-- What one line does to a scan: it is met by no open span, or it belongs to
    the open one. -/
theorem read_cases (cursor : Cursor) (content : List Char) (size : Nat) :
    (∃ finished, cursor.Closes content finished ∧
      cursor.read content size = cursor.openNew content size finished) ∨
    (∃ span depth, cursor.current = some (span, depth) ∧
      span.stopsBefore depth (cursor.lex == .code) (bodyOf content) = false ∧
      (cursor.read content size =
          ([cursor.grown span content size], cursor.onward content size none) ∨
        cursor.read content size = ([], cursor.onward content size
          (some (cursor.grown span content size,
            wrap32 (depth + (cursor.lex.advance content).depth)))))) := by
  unfold read
  cases hcurrent : cursor.current with
  | none => exact Or.inl ⟨[], Or.inl ⟨hcurrent, rfl⟩, rfl⟩
  | some current =>
      rcases current with ⟨span, depth⟩
      by_cases hstops : span.stopsBefore depth (cursor.lex == .code) (bodyOf content) = true
      · refine Or.inl ⟨[span], Or.inr ⟨span, depth, hcurrent, hstops, rfl⟩, ?_⟩
        simp only [if_pos hstops]
        rfl
      · refine Or.inr ⟨span, depth, rfl, Bool.eq_false_iff.mpr hstops, ?_⟩
        simp only [if_neg hstops]
        by_cases hterm : (cursor.lex.advance content).terminated = true
        · left
          rw [if_pos hterm]
          rfl
        · right
          rw [if_neg hterm]
          rfl

end Cursor

/-- A span that opens on the given line of a script. -/
structure Span.OpensOn (script : Script) (k : Nat) (line : Line) (span : Span) : Prop where
  found : script.body[k]? = some line
  number : span.startLine = k + 1
  code : script.stateBefore k = .code
  kind : span.kind = Statement.kindOf (bodyOf line.content)
  order : span.startLine ≤ span.endLine

/-- A cursor before the line with the given index, with an open span that
    opens on a line already read. -/
structure Cursor.Sound (script : Script) (k : Nat) (cursor : Cursor) : Prop where
  lex : cursor.lex = script.stateBefore k
  number : cursor.number = k + 1
  current : ∀ span depth, cursor.current = some (span, depth) →
    ∃ j line, span.OpensOn script j line ∧ j < k

namespace Cursor

variable {script : Script} {k : Nat} {line : Line} {cursor : Cursor}

theorem Sound.onward (h : cursor.Sound script k) (hline : script.body[k]? = some line)
    (size : Nat) {current : Option (Span × Int)}
    (hcurrent : ∀ span depth, current = some (span, depth) →
      ∃ j line, span.OpensOn script j line ∧ j < k + 1) :
    (cursor.onward line.content size current).Sound script (k + 1) := by
  refine ⟨?_, ?_, hcurrent⟩
  · rw [Script.stateBefore_succ hline, ← h.lex]
    rfl
  · change cursor.number + 1 = k + 1 + 1
    rw [h.number]

/-- An eligible line opens a span of its own kind. -/
theorem Sound.opened (h : cursor.Sound script k) (hline : script.body[k]? = some line)
    (size : Nat)
    (heligible : Statement.eligible (cursor.lex == .code) (bodyOf line.content) = true) :
    (cursor.opened line.content size).OpensOn script k line := by
  refine ⟨hline, h.number, ?_, rfl, Nat.le_refl _⟩
  simp only [Statement.eligible, Bool.and_eq_true] at heligible
  rw [← h.lex]
  exact eq_of_beq heligible.1.1.1

/-- A span that grows by a line still opens where it did. -/
theorem Sound.grown (h : cursor.Sound script k) {span : Span} {depth : Int}
    (hcurrent : cursor.current = some (span, depth)) (content : List Char) (size : Nat) :
    ∃ j line, (cursor.grown span content size).OpensOn script j line ∧ j < k + 1 := by
  rcases h.current span depth hcurrent with ⟨j, line, hopens, hj⟩
  -- The span now ends on the line being read, which comes after its first.
  refine ⟨j, line, ⟨hopens.found, hopens.number, hopens.code, hopens.kind, ?_⟩, by omega⟩
  change span.startLine ≤ cursor.number
  rw [h.number, hopens.number]
  omega

/-- Reading a line keeps a cursor sound, and the spans that it finishes open
    on lines of the script. -/
theorem Sound.read (h : cursor.Sound script k) (hline : script.body[k]? = some line)
    (size : Nat) :
    (∀ span ∈ (cursor.read line.content size).1, ∃ j line, span.OpensOn script j line) ∧
      (cursor.read line.content size).2.Sound script (k + 1) := by
  have hnone : (cursor.onward line.content size none).Sound script (k + 1) :=
    h.onward hline size fun _ _ hc => by cases hc
  rcases read_cases cursor line.content size with ⟨finished, hcloses, heq⟩ |
    ⟨span, depth, hcurrent, -, heq | heq⟩
  · -- The open span ends, and the line may open another one.
    have hfinished : ∀ span ∈ finished, ∃ j line, span.OpensOn script j line := by
      rcases hcloses with ⟨-, rfl⟩ | ⟨span, depth, hcurrent, -, rfl⟩
      · intro span hspan
        cases hspan
      · intro other hother
        rw [List.mem_singleton.mp hother]
        rcases h.current span depth hcurrent with ⟨j, line, hopens, -⟩
        exact ⟨j, line, hopens⟩
    rw [heq]
    rcases openNew_cases cursor line.content size finished with ⟨-, hnew⟩ | ⟨helig, -, hnew⟩ |
      ⟨helig, -, hnew⟩
    · rw [hnew]
      exact ⟨hfinished, hnone⟩
    · rw [hnew]
      refine ⟨?_, hnone⟩
      intro span hspan
      rcases List.mem_append.mp hspan with hspan | hspan
      · exact hfinished span hspan
      · rw [List.mem_singleton.mp hspan]
        exact ⟨k, line, h.opened hline size helig⟩
    · rw [hnew]
      refine ⟨hfinished, h.onward hline size ?_⟩
      intro span depth hc
      cases hc
      exact ⟨k, line, h.opened hline size helig, Nat.lt_succ_self k⟩
  · rw [heq]
    refine ⟨?_, hnone⟩
    intro other hother
    rw [List.mem_singleton.mp hother]
    rcases h.grown hcurrent line.content size with ⟨j, first, hopens, -⟩
    exact ⟨j, first, hopens⟩
  · rw [heq]
    refine ⟨by simp, h.onward hline size ?_⟩
    intro other depth' hc
    cases hc
    exact h.grown hcurrent line.content size

/-- Every span of a scan opens on a line of the script. -/
theorem Sound.scan (h : cursor.Sound script k) (lead : Nat) {lines : List Line}
    (hlines : lines = script.body.drop k) :
    ∀ span ∈ cursor.scan lead lines, ∃ j line, span.OpensOn script j line := by
  -- The lines still to be read are those of the script from index `k` on.
  induction lines generalizing cursor k lead with
  | nil =>
      intro span hspan
      simp only [Cursor.scan, Option.mem_toList, Option.map_eq_some_iff] at hspan
      rcases hspan with ⟨⟨span', depth⟩, hcurrent, rfl⟩
      rcases h.current span' depth hcurrent with ⟨j, line, hopens, -⟩
      exact ⟨j, line, hopens⟩
  | cons line rest ih =>
      have hline : script.body[k]? = some line := by
        have hhead := congrArg List.head? hlines
        rw [List.head?_drop] at hhead
        exact hhead.symm
      have hrest : rest = script.body.drop (k + 1) := by
        have htail := congrArg List.tail hlines
        rw [List.tail_drop] at htail
        exact htail
      rcases h.read hline (lead + line.size) with ⟨hfinished, hnext⟩
      intro span hspan
      rcases List.mem_append.mp hspan with hspan | hspan
      · exact hfinished span hspan
      · exact ih hnext 0 hrest span hspan

end Cursor

namespace Script

/-- Every span of a script opens on one of its lines. -/
theorem exists_opensOn {script : Script} {span : Span} (h : span ∈ script.spans) :
    ∃ k line, span.OpensOn script k line := by
  rcases List.mem_map.mp h with ⟨raw, hraw, rfl⟩
  have hstart : Cursor.start.Sound script 0 := ⟨rfl, rfl, fun _ _ hc => by cases hc⟩
  rcases hstart.scan (Utf8.size script.mark) rfl raw hraw with ⟨k, line, hopens⟩
  refine ⟨k, line, ?_⟩
  -- Filling in a name and a guard moves no line.
  unfold Span.fillSplit
  split
  · split
    · exact hopens
    · exact ⟨hopens.found, hopens.number, hopens.code, hopens.kind, hopens.order⟩
  · exact hopens

end Script

end Rerun
