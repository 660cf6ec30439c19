import Mathlib.Algebra.BigOperators.Intervals
import Rerun.Proofs.Spans

/-!
# The Span a Line Belongs To

A span is finished only when the scan is past it, so which lines it takes up
is not known while they are read. It is known all the same which span a line
belongs to: the one that is open and does not stop before the line, or else
the one that the line opens. `joined` is that span with the line added, and
`read_eq` says that this is all there is to reading a line. The open span may
be finished before the line, the joined one is finished by the line if a
semicolon ends it, and is open after the line if none does.

The spans that a scan comes up with extend the joined ones. The span that a
line joins is finished in a later form (`exists_extends_joined`), and a
finished span that a line is on is a later form of the one that the line has
joined (`joined_of_covered`). A fact about the finished spans is in this way a
fact about single lines (`exists_span_iff`).

## Main definitions

* `Span.Extends`: A later form of a span that is still open.
* `Cursor.closed`, `Cursor.joined`: What a line finishes, and what it joins.
* `Cursor.Snug`: A cursor whose open span reaches up to it.
* `Cursor.upTo`: The cursor before a line of a scan.
* `Script.cursorAt`, `Script.joinedAt`: The cursor before a line of a script,
  and the span that the line joins.
* `Script.openParens`: The parentheses that some lines leave open.

## Theorems

* `Cursor.read_eq`: Reading a line, by the span that it joins.
* `Cursor.Snug.exists_extends`, `Cursor.Snug.extends_or_later`: The finished
  spans, by the one that is open.
* `Cursor.Snug.exists_extends_joined`, `Cursor.Snug.joined_of_covered`: The
  finished spans, by the lines that are on them.
* `Cursor.one_le_startLine`: No span starts before the first line.
* `Script.depth_cursorAt`: How deep a scan stands in parentheses.
* `Script.exists_span_iff`: The spans of a script, line by line.
-/

namespace Rerun

open Text Keyword LexState

/-- A line that begins with a letter can open a statement. -/
theorem Statement.eligible_of_initial {u : Char} {body : List Char} (h : Initial u body)
    (hdash : u ≠ '-') (hslash : u ≠ '/') : eligible true body = true := by
  rcases h with ⟨c, tail, rfl, rfl⟩
  have hc : '-' ≠ c := by
    rintro rfl
    exact hdash rfl
  have hc' : '/' ≠ c := by
    rintro rfl
    exact hslash rfl
  simp [eligible, isComment, isBlockComment, startsWith, commentMarker, List.isPrefixOf, hc, hc']

/-- A later form of a span: it has grown by some lines, and all that was
    decided on its first line is the same. -/
structure Span.Extends (span later : Span) : Prop where
  kind : later.kind = span.kind
  startLine : later.startLine = span.startLine
  startOffset : later.startOffset = span.startOffset
  indent : later.indent = span.indent
  table : later.table = span.table
  guard : later.guard = span.guard
  endLine : span.endLine ≤ later.endLine

theorem Span.Extends.refl (span : Span) : span.Extends span :=
  ⟨rfl, rfl, rfl, rfl, rfl, rfl, Nat.le_refl _⟩

theorem Span.Extends.trans {a b c : Span} (hab : a.Extends b) (hbc : b.Extends c) :
    a.Extends c where
  kind := hbc.kind.trans hab.kind
  startLine := hbc.startLine.trans hab.startLine
  startOffset := hbc.startOffset.trans hab.startOffset
  indent := hbc.indent.trans hab.indent
  table := hbc.table.trans hab.table
  guard := hbc.guard.trans hab.guard
  endLine := Nat.le_trans hab.endLine hbc.endLine

namespace Cursor

/-- The open span, if it stops before the line. -/
def closed (cursor : Cursor) (content : List Char) : List Span :=
  match cursor.current with
  | none => []
  | some (span, depth) =>
    if span.stopsBefore depth (cursor.lex == .code) (bodyOf content) then [span] else []

/-- The span that the line opens, if it can open one. -/
def fresh (cursor : Cursor) (content : List Char) (size : Nat) : Option (Span × Int) :=
  if Statement.eligible (cursor.lex == .code) (bodyOf content) then
    some (cursor.opened content size, (cursor.lex.advance content).depth)
  else none

/-- The span that the line belongs to, with the line added. -/
def joined (cursor : Cursor) (content : List Char) (size : Nat) : Option (Span × Int) :=
  match cursor.current with
  | none => cursor.fresh content size
  | some (span, depth) =>
    if span.stopsBefore depth (cursor.lex == .code) (bodyOf content) then
      cursor.fresh content size
    else some (cursor.grown span content size, wrap32 (depth + (cursor.lex.advance content).depth))

/-- Reading a line: the open span is finished if it stops before the line, and
    the span that the line joins is finished if the line terminates it. -/
theorem read_eq (cursor : Cursor) (content : List Char) (size : Nat) :
    cursor.read content size =
      if (cursor.lex.advance content).terminated then
        (cursor.closed content ++ ((cursor.joined content size).map Prod.fst).toList,
          cursor.onward content size none)
      else (cursor.closed content, cursor.onward content size (cursor.joined content size)) := by
  have hnew : ∀ finished, cursor.openNew content size finished =
      if (cursor.lex.advance content).terminated then
        (finished ++ ((cursor.fresh content size).map Prod.fst).toList,
          cursor.onward content size none)
      else (finished, cursor.onward content size (cursor.fresh content size)) := by
    intro finished
    unfold fresh
    rcases openNew_cases cursor content size finished with ⟨helig, heq⟩ | ⟨helig, hterm, heq⟩ |
      ⟨helig, hterm, heq⟩
    · rw [heq, helig]
      split <;> simp
    · rw [heq, helig, hterm]
      rfl
    · rw [heq, helig, hterm]
      rfl
  cases hcurrent : cursor.current with
  | none =>
      simp only [closed, joined, hcurrent]
      rw [← hnew]
      simp only [read, hcurrent]
      rfl
  | some current =>
      rcases current with ⟨span, depth⟩
      simp only [closed, joined, hcurrent]
      by_cases hstops : span.stopsBefore depth (cursor.lex == .code) (bodyOf content) = true
      · simp only [if_pos hstops]
        rw [← hnew]
        simp only [read, hcurrent, if_pos hstops]
        rfl
      · simp only [if_neg hstops]
        simp only [read, hcurrent, if_neg hstops]
        split <;> rfl

section Read

variable {cursor : Cursor} {content : List Char} {size : Nat} {span : Span} {depth : Int}

theorem lex_read (cursor : Cursor) (content : List Char) (size : Nat) :
    (cursor.read content size).2.lex = (cursor.lex.advance content).last := by
  rw [read_eq]
  split <;> rfl

theorem number_read (cursor : Cursor) (content : List Char) (size : Nat) :
    (cursor.read content size).2.number = cursor.number + 1 := by
  rw [read_eq]
  split <;> rfl

/-- After a line the span that it has joined is open, unless a semicolon has
    ended it. -/
theorem current_read (cursor : Cursor) (content : List Char) (size : Nat) :
    (cursor.read content size).2.current =
      if (cursor.lex.advance content).terminated then none else cursor.joined content size := by
  rw [read_eq]
  split <;> rfl

/-- What a line finishes was open before it, or is what the line has joined. -/
theorem mem_read (h : span ∈ (cursor.read content size).1) :
    span ∈ cursor.closed content ∨ ∃ depth, cursor.joined content size = some (span, depth) := by
  rw [read_eq] at h
  split at h
  · rcases List.mem_append.mp h with h | h
    · exact Or.inl h
    · simp only [Option.mem_toList, Option.map_eq_some_iff] at h
      rcases h with ⟨⟨span', depth⟩, hjoined, rfl⟩
      exact Or.inr ⟨depth, hjoined⟩
  · exact Or.inl h

theorem mem_read_of_closed (h : span ∈ cursor.closed content) :
    span ∈ (cursor.read content size).1 := by
  rw [read_eq]
  split
  · exact List.mem_append_left _ h
  · exact h

/-- What a line has joined is finished by it or open after it. -/
theorem finished_or_open (h : cursor.joined content size = some (span, depth)) :
    span ∈ (cursor.read content size).1 ∨
      (cursor.read content size).2.current = some (span, depth) := by
  rw [read_eq, h]
  split
  · left
    simp
  · exact Or.inr rfl

theorem joined_of_current_read (h : (cursor.read content size).2.current = some (span, depth)) :
    cursor.joined content size = some (span, depth) := by
  rw [current_read] at h
  split at h
  · cases h
  · exact h

/-- The span that a line joins is the open one with the line added, or one
    that the line opens. -/
theorem joined_cases (h : cursor.joined content size = some (span, depth)) :
    (∃ old before, cursor.current = some (old, before) ∧
      old.stopsBefore before (cursor.lex == .code) (bodyOf content) = false ∧
      span = cursor.grown old content size ∧
      depth = wrap32 (before + (cursor.lex.advance content).depth)) ∨
    (Statement.eligible (cursor.lex == .code) (bodyOf content) = true ∧
      span = cursor.opened content size ∧ depth = (cursor.lex.advance content).depth) := by
  have hfresh : cursor.fresh content size = some (span, depth) →
      Statement.eligible (cursor.lex == .code) (bodyOf content) = true ∧
        span = cursor.opened content size ∧ depth = (cursor.lex.advance content).depth := by
    intro hnew
    unfold fresh at hnew
    split at hnew
    · rename_i helig
      cases hnew
      exact ⟨helig, rfl, rfl⟩
    · cases hnew
  unfold joined at h
  split at h
  · exact Or.inr (hfresh h)
  · rename_i old before hcurrent
    split at h
    · exact Or.inr (hfresh h)
    · rename_i hstops
      cases h
      exact Or.inl ⟨old, before, hcurrent, Bool.eq_false_iff.mpr hstops, rfl, rfl⟩

end Read

/-- A cursor whose open span, if there is one, reaches up to the line before
    it. -/
structure Snug (cursor : Cursor) : Prop where
  order : ∀ span depth, cursor.current = some (span, depth) → span.startLine ≤ span.endLine
  last : ∀ span depth, cursor.current = some (span, depth) → span.endLine + 1 = cursor.number

namespace Snug

variable {cursor : Cursor} {content : List Char} {size : Nat} {span : Span} {depth : Int}

/-- The span that a line joins ends on the line. -/
theorem endLine_joined (hsnug : cursor.Snug)
    (h : cursor.joined content size = some (span, depth)) :
    span.startLine ≤ span.endLine ∧ span.endLine = cursor.number := by
  rcases joined_cases h with ⟨old, before, hcurrent, -, rfl, -⟩ | ⟨-, rfl, -⟩
  · have horder := hsnug.order old before hcurrent
    have hlast := hsnug.last old before hcurrent
    refine ⟨?_, rfl⟩
    change old.startLine ≤ cursor.number
    omega
  · exact ⟨Nat.le_refl _, rfl⟩

theorem read (hsnug : cursor.Snug) (content : List Char) (size : Nat) :
    (cursor.read content size).2.Snug := by
  refine ⟨?_, ?_⟩
  · intro span depth h
    exact (hsnug.endLine_joined (joined_of_current_read h)).1
  · intro span depth h
    rw [(hsnug.endLine_joined (joined_of_current_read h)).2, number_read]

/-- A span that a line closes was open before it, and ends before it. -/
theorem of_closed (hsnug : cursor.Snug) (h : span ∈ cursor.closed content) :
    (∃ depth, cursor.current = some (span, depth)) ∧ span.endLine < cursor.number := by
  unfold Cursor.closed at h
  split at h
  · cases h
  · rename_i old depth hcurrent
    split at h
    · rw [List.mem_singleton.mp h]
      have hlast := hsnug.last old depth hcurrent
      exact ⟨⟨depth, hcurrent⟩, by omega⟩
    · cases h

/-- The open span with a line added is a later form of it. -/
theorem extends_grown (hsnug : cursor.Snug) (h : cursor.current = some (span, depth))
    (content : List Char) (size : Nat) : span.Extends (cursor.grown span content size) := by
  have hlast := hsnug.last span depth h
  refine ⟨rfl, rfl, rfl, rfl, rfl, rfl, ?_⟩
  change span.endLine ≤ cursor.number
  omega

/-- The span that a line joins extends the open one or is a new one. -/
theorem extends_joined (hsnug : cursor.Snug)
    (h : cursor.joined content size = some (span, depth)) :
    (∃ old before, cursor.current = some (old, before) ∧ old.Extends span) ∨
      span.startLine = cursor.number := by
  rcases joined_cases h with ⟨old, before, hcurrent, -, rfl, -⟩ | ⟨-, rfl, -⟩
  · exact Or.inl ⟨old, before, hcurrent, hsnug.extends_grown hcurrent content size⟩
  · exact Or.inr rfl

end Snug

theorem scan_cons (cursor : Cursor) (lead : Nat) (line : Line) (rest : List Line) :
    cursor.scan lead (line :: rest) = (cursor.read line.content (lead + line.size)).1 ++
      (cursor.read line.content (lead + line.size)).2.scan 0 rest := rfl

/-- The span that is open is finished by the scan in a later form. -/
theorem Snug.exists_extends {cursor : Cursor} (hsnug : cursor.Snug) {span : Span} {depth : Int}
    (h : cursor.current = some (span, depth)) (lead : Nat) (lines : List Line) :
    ∃ later ∈ cursor.scan lead lines, span.Extends later := by
  induction lines generalizing cursor span depth lead with
  | nil =>
      refine ⟨span, ?_, Span.Extends.refl span⟩
      simp only [scan, h, Option.map_some, Option.toList_some, List.mem_singleton]
  | cons line rest ih =>
      rw [scan_cons]
      by_cases hstops : span.stopsBefore depth (cursor.lex == .code) (bodyOf line.content) = true
      · have hclosed : span ∈ cursor.closed line.content := by
          simp only [closed, h, if_pos hstops, List.mem_singleton]
        exact ⟨span, List.mem_append_left _ (mem_read_of_closed hclosed), Span.Extends.refl span⟩
      · have hjoined : cursor.joined line.content (lead + line.size) =
            some (cursor.grown span line.content (lead + line.size),
              wrap32 (depth + (cursor.lex.advance line.content).depth)) := by
          simp only [joined, h, if_neg hstops]
        have hextends := hsnug.extends_grown h line.content (lead + line.size)
        rcases finished_or_open hjoined with hmem | hcurrent
        · exact ⟨_, List.mem_append_left _ hmem, hextends⟩
        · rcases ih (hsnug.read line.content (lead + line.size)) hcurrent 0 with
            ⟨later, hlater, hmore⟩
          exact ⟨later, List.mem_append_right _ hlater, hextends.trans hmore⟩

/-- A finished span is a later form of the open one, or it starts later. -/
theorem Snug.extends_or_later {cursor : Cursor} (hsnug : cursor.Snug) {lead : Nat}
    {lines : List Line} {later : Span} (h : later ∈ cursor.scan lead lines) :
    (∃ span depth, cursor.current = some (span, depth) ∧ span.Extends later) ∨
      cursor.number ≤ later.startLine := by
  induction lines generalizing cursor lead with
  | nil =>
      simp only [scan, Option.mem_toList, Option.map_eq_some_iff] at h
      rcases h with ⟨⟨span, depth⟩, hcurrent, rfl⟩
      exact Or.inl ⟨span, depth, hcurrent, Span.Extends.refl span⟩
  | cons line rest ih =>
      -- What extends the span that the line joins extends the open one, or
      -- starts on the line.
      have hjoined : ∀ span depth,
          cursor.joined line.content (lead + line.size) = some (span, depth) →
          span.Extends later →
          (∃ span depth, cursor.current = some (span, depth) ∧ span.Extends later) ∨
            cursor.number ≤ later.startLine := by
        intro span depth hj hextends
        rcases hsnug.extends_joined hj with ⟨old, before, hcurrent, hold⟩ | hstart
        · exact Or.inl ⟨old, before, hcurrent, hold.trans hextends⟩
        · right
          rw [hextends.startLine, hstart]
      rw [scan_cons] at h
      rcases List.mem_append.mp h with h | h
      · rcases mem_read h with hclosed | ⟨depth, hj⟩
        · rcases (hsnug.of_closed hclosed).1 with ⟨depth, hcurrent⟩
          exact Or.inl ⟨later, depth, hcurrent, Span.Extends.refl later⟩
        · exact hjoined later depth hj (Span.Extends.refl later)
      · rcases ih (hsnug.read line.content (lead + line.size)) h with
          ⟨span, depth, hcurrent, hextends⟩ | hstart
        · exact hjoined span depth (joined_of_current_read hcurrent) hextends
        · rw [number_read] at hstart
          exact Or.inr (Nat.le_of_succ_le hstart)

theorem snug_start : Cursor.start.Snug := by
  refine ⟨?_, ?_⟩
  · intro span depth h
    cases h
  · intro span depth h
    cases h

/-- No span starts before the first line. -/
theorem one_le_startLine {lead : Nat} {lines : List Line} {span : Span}
    (h : span ∈ Cursor.start.scan lead lines) : 1 ≤ span.startLine := by
  rcases snug_start.extends_or_later h with ⟨current, depth, hcurrent, -⟩ | hstart
  · cases hcurrent
  · exact hstart

/-- The cursor before the line with the given index. -/
def upTo (cursor : Cursor) (lead : Nat) : List Line → Nat → Cursor
  | [], _ => cursor
  | _ :: _, 0 => cursor
  | line :: rest, k + 1 => (cursor.read line.content (lead + line.size)).2.upTo 0 rest k

/-- The bytes that stand before the line with the given index and belong to
    it. -/
def leadAt (lead : Nat) : Nat → Nat
  | 0 => lead
  | _ + 1 => 0

theorem upTo_zero (cursor : Cursor) (lead : Nat) (lines : List Line) :
    cursor.upTo lead lines 0 = cursor := by
  cases lines <;> rfl

theorem upTo_succ (cursor : Cursor) (lead : Nat) {lines : List Line} {k : Nat} {line : Line}
    (h : lines[k]? = some line) :
    cursor.upTo lead lines (k + 1) =
      ((cursor.upTo lead lines k).read line.content (leadAt lead k + line.size)).2 := by
  induction lines generalizing cursor lead k with
  | nil => cases h
  | cons first rest ih =>
      cases k with
      | zero =>
          cases h
          simp only [upTo, upTo_zero, leadAt]
      | succ k =>
          have hrest := ih (cursor.read first.content (lead + first.size)).2 0 h
          rw [upTo, hrest]
          cases k <;> rfl

theorem Snug.upTo {cursor : Cursor} (hsnug : cursor.Snug) (lead : Nat) (lines : List Line)
    (k : Nat) : (cursor.upTo lead lines k).Snug := by
  induction lines generalizing cursor lead k with
  | nil =>
      rw [Cursor.upTo]
      exact hsnug
  | cons line rest ih =>
      cases k with
      | zero => exact hsnug
      | succ k => exact ih (hsnug.read line.content (lead + line.size)) 0 k

/-- The span that a line joins is finished by the scan in a later form. -/
theorem Snug.exists_extends_joined {cursor : Cursor} (hsnug : cursor.Snug) {lead : Nat}
    {lines : List Line} {k : Nat} {line : Line} (h : lines[k]? = some line) {span : Span}
    {depth : Int}
    (hjoined : (cursor.upTo lead lines k).joined line.content (leadAt lead k + line.size) =
      some (span, depth)) :
    ∃ later ∈ cursor.scan lead lines, span.Extends later := by
  induction lines generalizing cursor lead k with
  | nil => cases h
  | cons first rest ih =>
      have hnext := hsnug.read first.content (lead + first.size)
      cases k with
      | zero =>
          cases h
          rw [upTo_zero] at hjoined
          change cursor.joined line.content (lead + line.size) = some (span, depth) at hjoined
          rw [scan_cons]
          rcases finished_or_open hjoined with hmem | hcurrent
          · exact ⟨span, List.mem_append_left _ hmem, Span.Extends.refl span⟩
          · rcases hnext.exists_extends hcurrent 0 rest with ⟨later, hlater, hextends⟩
            exact ⟨later, List.mem_append_right _ hlater, hextends⟩
      | succ k =>
          have hlead : leadAt lead (k + 1) = leadAt 0 k := by cases k <;> rfl
          rw [hlead] at hjoined
          rcases ih hnext h hjoined with ⟨later, hlater, hextends⟩
          exact ⟨later, List.mem_append_right _ hlater, hextends⟩

/-- A finished span that a line is on is a later form of the one that the line
    joins. -/
theorem Snug.joined_of_covered {cursor : Cursor} (hsnug : cursor.Snug) {lead : Nat}
    {lines : List Line} {k : Nat} {later : Span} (h : later ∈ cursor.scan lead lines)
    (hstart : later.startLine ≤ cursor.number + k) (hend : cursor.number + k ≤ later.endLine) :
    ∃ line span depth, lines[k]? = some line ∧
      (cursor.upTo lead lines k).joined line.content (leadAt lead k + line.size) =
        some (span, depth) ∧ span.Extends later := by
  induction lines generalizing cursor lead k with
  | nil =>
      -- A span that is still open at the end does not reach past the end.
      simp only [scan, Option.mem_toList, Option.map_eq_some_iff] at h
      rcases h with ⟨⟨span, depth⟩, hcurrent, rfl⟩
      have hlast := hsnug.last span depth hcurrent
      exact absurd hend (by simp only; omega)
  | cons first rest ih =>
      have hnext := hsnug.read first.content (lead + first.size)
      rw [scan_cons] at h
      rcases List.mem_append.mp h with h | h
      · rcases mem_read h with hclosed | ⟨depth, hjoined⟩
        · have hbefore := (hsnug.of_closed hclosed).2
          exact absurd hend (by omega)
        · -- The span ends on the first line, so that is the line.
          have hlast := (hsnug.endLine_joined hjoined).2
          obtain rfl : k = 0 := by omega
          exact ⟨first, later, depth, rfl, hjoined, Span.Extends.refl later⟩
      · cases k with
        | zero =>
            rcases hnext.extends_or_later h with ⟨span, depth, hcurrent, hextends⟩ | hafter
            · exact ⟨first, span, depth, rfl, joined_of_current_read hcurrent, hextends⟩
            · rw [number_read] at hafter
              exact absurd hstart (by omega)
        | succ k =>
            have hlead : leadAt lead (k + 1) = leadAt 0 k := by cases k <;> rfl
            rw [hlead]
            refine ih hnext h ?_ ?_
            · rw [number_read]
              omega
            · rw [number_read]
              omega

end Cursor

/-- Filling in a name and a guard changes neither the lines of a span nor what
    is said of its extent. -/
theorem Span.fillSplit_eq (lines : List Line) (span : Span) :
    ∃ table guard, span.fillSplit lines = { span with table, guard } := by
  unfold Span.fillSplit
  split
  · split
    · exact ⟨span.table, span.guard, rfl⟩
    · exact ⟨_, _, rfl⟩
  · exact ⟨span.table, span.guard, rfl⟩

namespace Script

/-- The cursor before the line with the given index. -/
def cursorAt (script : Script) (k : Nat) : Cursor :=
  Cursor.start.upTo (Utf8.size script.mark) script.body k

/-- The span that the line with the given index belongs to, with the
    parentheses it leaves open. -/
def joinedAt (script : Script) (k : Nat) : Option (Span × Int) :=
  script.body[k]?.bind fun line =>
    (script.cursorAt k).joined line.content (Cursor.leadAt (Utf8.size script.mark) k + line.size)

/-- The balance of the parentheses on the line with the given index. -/
def balance (script : Script) (k : Nat) : Int :=
  match script.body[k]? with
  | none => 0
  | some line => ((script.stateBefore k).advance line.content).depth

/-- The parentheses that the lines with index at least `i` and less than `k`
    leave open, counted in 32 bits. -/
def openParens (script : Script) (i k : Nat) : Int :=
  wrap32 (∑ j ∈ Finset.Ico i k, script.balance j)

section Lines

variable {script : Script} {k : Nat} {line : Line} {span : Span} {depth : Int}

theorem cursorAt_zero : script.cursorAt 0 = .start :=
  Cursor.upTo_zero _ _ _

theorem cursorAt_succ (h : script.body[k]? = some line) :
    script.cursorAt (k + 1) = ((script.cursorAt k).read line.content
      (Cursor.leadAt (Utf8.size script.mark) k + line.size)).2 :=
  Cursor.upTo_succ _ _ h

theorem joinedAt_eq (h : script.body[k]? = some line) :
    script.joinedAt k = (script.cursorAt k).joined line.content
      (Cursor.leadAt (Utf8.size script.mark) k + line.size) := by
  rw [joinedAt, h]
  rfl

theorem lex_cursorAt (hk : k ≤ script.body.length) :
    (script.cursorAt k).lex = script.stateBefore k := by
  induction k with
  | zero =>
      rw [cursorAt_zero]
      rfl
  | succ k ih =>
      have hline := List.getElem?_eq_getElem hk
      rw [cursorAt_succ hline, Cursor.lex_read, ih (Nat.le_of_lt hk), stateBefore_succ hline]

theorem number_cursorAt (hk : k ≤ script.body.length) : (script.cursorAt k).number = k + 1 := by
  induction k with
  | zero =>
      rw [cursorAt_zero]
      rfl
  | succ k ih =>
      rw [cursorAt_succ (List.getElem?_eq_getElem hk), Cursor.number_read, ih (Nat.le_of_lt hk)]

/-- The open span before a line is the one that the line before has joined and
    not terminated. -/
theorem current_cursorAt_succ (h : script.body[k]? = some line) :
    (script.cursorAt (k + 1)).current =
      if ((script.stateBefore k).advance line.content).terminated then none
      else script.joinedAt k := by
  have hk := (List.getElem?_eq_some_iff.mp h).1
  rw [cursorAt_succ h, Cursor.current_read, lex_cursorAt (Nat.le_of_lt hk), joinedAt_eq h]

theorem balance_eq (h : script.body[k]? = some line) :
    script.balance k = ((script.cursorAt k).lex.advance line.content).depth := by
  rw [balance, h, lex_cursorAt (Nat.le_of_lt (List.getElem?_eq_some_iff.mp h).1)]

/-- A single line leaves open what its own balance says. -/
theorem openParens_self_succ : script.openParens k (k + 1) = script.balance k := by
  rw [openParens, Finset.sum_Ico_succ_top (Nat.le_refl k), Finset.Ico_self, Finset.sum_empty,
    Int.zero_add]
  unfold balance
  split
  · rfl
  · exact LexState.wrap32_depth _ _

/-- The span that a line joins is the open one with the line added, or one
    that opens on the line. -/
theorem joinedAt_cases (h : script.body[k]? = some line)
    (hjoined : script.joinedAt k = some (span, depth)) :
    (∃ old before, (script.cursorAt k).current = some (old, before) ∧
      old.stopsBefore before (script.stateBefore k == .code) (bodyOf line.content) = false ∧
      span.kind = old.kind ∧ span.startLine = old.startLine ∧
      depth = wrap32 (before + script.balance k)) ∨
    (Statement.eligible (script.stateBefore k == .code) (bodyOf line.content) = true ∧
      span.kind = Statement.kindOf (bodyOf line.content) ∧ span.startLine = k + 1 ∧
      depth = script.balance k) := by
  have hk := Nat.le_of_lt (List.getElem?_eq_some_iff.mp h).1
  rw [joinedAt_eq h] at hjoined
  rw [balance_eq h, ← lex_cursorAt hk]
  rcases Cursor.joined_cases hjoined with ⟨old, before, hcurrent, hstops, rfl, hdepth⟩ |
    ⟨helig, rfl, hdepth⟩
  · exact Or.inl ⟨old, before, hcurrent, hstops, rfl, rfl, hdepth⟩
  · exact Or.inr ⟨helig, rfl, number_cursorAt hk, hdepth⟩

/-- A line that the open span does not stop before joins it. -/
theorem joinedAt_of_stays (h : script.body[k]? = some line)
    (hcurrent : (script.cursorAt k).current = some (span, depth))
    (hstays : span.stopsBefore depth (script.stateBefore k == .code) (bodyOf line.content)
      = false) :
    ∃ later, script.joinedAt k = some (later, wrap32 (depth + script.balance k)) ∧
      later.kind = span.kind ∧ later.startLine = span.startLine := by
  rw [← lex_cursorAt (Nat.le_of_lt (List.getElem?_eq_some_iff.mp h).1)] at hstays
  refine ⟨(script.cursorAt k).grown span line.content
    (Cursor.leadAt (Utf8.size script.mark) k + line.size), ?_, rfl, rfl⟩
  rw [joinedAt_eq h, balance_eq h]
  simp only [Cursor.joined, hcurrent, hstays, Bool.false_eq_true, if_false]

/-- An eligible line that the open span stops before opens one of its own. -/
theorem joinedAt_of_stops (h : script.body[k]? = some line)
    (helig : Statement.eligible (script.stateBefore k == .code) (bodyOf line.content) = true)
    (hstops : ∀ span depth, (script.cursorAt k).current = some (span, depth) →
      span.stopsBefore depth (script.stateBefore k == .code) (bodyOf line.content) = true) :
    ∃ later, script.joinedAt k = some (later, script.balance k) ∧
      later.kind = Statement.kindOf (bodyOf line.content) ∧ later.startLine = k + 1 := by
  have hk := Nat.le_of_lt (List.getElem?_eq_some_iff.mp h).1
  rw [← lex_cursorAt hk] at helig hstops
  refine ⟨(script.cursorAt k).opened line.content
    (Cursor.leadAt (Utf8.size script.mark) k + line.size), ?_, rfl, number_cursorAt hk⟩
  rw [joinedAt_eq h, balance_eq h]
  cases hcurrent : (script.cursorAt k).current with
  | none => simp only [Cursor.joined, Cursor.fresh, hcurrent, if_pos helig]
  | some current =>
      rcases current with ⟨span, depth⟩
      simp only [Cursor.joined, Cursor.fresh, hcurrent, if_pos (hstops span depth hcurrent),
        if_pos helig]

/-- The depth of the open span is the balance of the lines that it has so
    far. -/
theorem depth_cursorAt (hk : k ≤ script.body.length)
    (h : (script.cursorAt k).current = some (span, depth)) :
    span.startLine ≤ k ∧ depth = script.openParens (span.startLine - 1) k := by
  induction k generalizing span depth with
  | zero =>
      rw [cursorAt_zero] at h
      cases h
  | succ k ih =>
      have hline := List.getElem?_eq_getElem hk
      rw [current_cursorAt_succ hline] at h
      split at h
      · cases h
      · rcases joinedAt_cases hline h with ⟨old, before, hcurrent, -, -, hstart, rfl⟩ |
          ⟨-, -, hstart, rfl⟩
        · -- The line adds its balance to the depth, and itself to the sum.
          rcases ih (Nat.le_of_lt hk) hcurrent with ⟨hle, rfl⟩
          rw [hstart]
          refine ⟨Nat.le_succ_of_le hle, ?_⟩
          rw [openParens, openParens, Finset.sum_Ico_succ_top (by omega), wrap32_wrap32_add]
        · rw [hstart, Nat.add_sub_cancel]
          exact ⟨Nat.le_refl _, openParens_self_succ.symm⟩

/-- A line is on a span of the script exactly if it joins one, and of the two
    the kind and the first line are the same. -/
theorem exists_span_iff (script : Script) (k : Nat) (P : Kind → Nat → Prop) :
    (∃ span ∈ script.spans, span.startLine ≤ k + 1 ∧ k + 1 ≤ span.endLine ∧
        P span.kind span.startLine) ↔
      ∃ span depth, script.joinedAt k = some (span, depth) ∧ P span.kind span.startLine := by
  have hsnug := Cursor.snug_start
  constructor
  · rintro ⟨span, hspan, hstart, hend, hP⟩
    rcases List.mem_map.mp hspan with ⟨raw, hraw, rfl⟩
    rcases Span.fillSplit_eq script.lines raw with ⟨table, guard, heq⟩
    rw [heq] at hstart hend hP
    rw [Nat.add_comm] at hstart hend
    rcases hsnug.joined_of_covered hraw hstart hend with ⟨line, span, depth, hline, hj, hextends⟩
    refine ⟨span, depth, ?_, ?_⟩
    · rw [joinedAt_eq hline]
      exact hj
    · rw [← hextends.kind, ← hextends.startLine]
      exact hP
  · rintro ⟨span, depth, hjoined, hP⟩
    rw [joinedAt, Option.bind_eq_some_iff] at hjoined
    rcases hjoined with ⟨line, hline, hj⟩
    -- The joined span ends on the line, and its later form does not end before.
    have hlast := (hsnug.upTo _ _ k).endLine_joined hj
    have hnumber := number_cursorAt (Nat.le_of_lt (List.getElem?_eq_some_iff.mp hline).1)
    rcases hsnug.exists_extends_joined hline hj with ⟨later, hlater, hextends⟩
    have hstart := hextends.startLine
    have hend := hextends.endLine
    refine ⟨later.fillSplit script.lines, List.mem_map_of_mem hlater, ?_⟩
    rcases Span.fillSplit_eq script.lines later with ⟨table, guard, heq⟩
    rw [cursorAt] at hnumber
    rw [heq]
    refine ⟨?_, ?_, ?_⟩
    · change later.startLine ≤ k + 1
      omega
    · change k + 1 ≤ later.endLine
      omega
    · change P later.kind later.startLine
      rw [hextends.kind, hextends.startLine]
      exact hP

end Lines

end Script

end Rerun
