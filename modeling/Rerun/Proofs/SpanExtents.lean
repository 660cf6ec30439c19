import Rerun.Proofs.SpanLines

/-!
# What Spans Cover

The spans of a script as pieces of its text: they follow one another without
overlapping, the byte offsets of each cut exactly its lines out of the text,
and every line that can open a statement is on one of them.

A span is decided on two of its lines. Its first line has opened it, and what
is said there (kind, indentation, start) is never touched again
(`exists_opened`). Its last line is the one it was joined by last, so the span
that is reported is the joined one itself and not only an extension of it
(`joinedAt_last`). Whatever is to be known of a finished span can be read off
these two lines.

Positions in the text are counted in bytes. `Utf8.slice?` cuts a text at two
byte offsets and fails where an offset would split a character, so that
finding the lines of a span there also says that its offsets fall between
characters.

## Main definitions

* `Utf8.slice?`: The piece of a text between two byte offsets.
* `Span.Covers`: A line of a span.
* `Script.offsetOf`: The byte offset at which a line starts.
* `Script.scanned`: The spans before names and guards are filled in.
* `Script.linesOf`: The lines of a span.
* `Script.Active`: A line that can open a statement.

## Theorems

* `Utf8.slice?_append`: A piece is found at its offsets.
* `Cursor.Snug.pairwise_scan`: Spans are in order and do not overlap.
* `Cursor.Snug.joined_last`: A finished span is the one that its last line has
  joined.
* `Script.exists_opened`, `Script.joinedAt_last`: The first and the last line
  of a span.
* `Script.joinedAt_of_covers`: Every line of a span.
* `Script.offset_cursorAt`: The offset before a line of a scan.
* `Script.spans_partition`: The spans as pieces of the text.
-/

namespace Rerun

open Text LexState

namespace Utf8

/-- A text split at a byte offset. There is no split past the end, or inside
    of a character. -/
def splitAt? : Nat → List Char → Option (List Char × List Char)
  | 0, text => some ([], text)
  | _ + 1, [] => none
  | n + 1, c :: rest =>
    if c.utf8Size ≤ n + 1 then
      (splitAt? (n + 1 - c.utf8Size) rest).map fun (before, after) => (c :: before, after)
    else none

/-- The piece of a text between two byte offsets. -/
def slice? (text : List Char) (start stop : Nat) : Option (List Char) :=
  if start ≤ stop then do
    let (_, after) ← splitAt? start text
    let (piece, _) ← splitAt? (stop - start) after
    return piece
  else none

theorem splitAt?_append (a b : List Char) : splitAt? (size a) (a ++ b) = some (a, b) := by
  induction a with
  | nil => simp only [size_nil, List.nil_append, splitAt?]
  | cons c rest ih =>
      have hpos := c.utf8Size_pos
      rcases Nat.exists_eq_succ_of_ne_zero (n := size (c :: rest)) (by rw [size_cons]; omega) with
        ⟨n, hn⟩
      have hrest : n + 1 - c.utf8Size = size rest := by
        rw [size_cons] at hn
        omega
      rw [hn, List.cons_append, splitAt?, if_pos (by rw [size_cons] at hn; omega), hrest, ih]
      rfl

/-- A piece of a text is found at its offsets. -/
theorem slice?_append (a b c : List Char) :
    slice? (a ++ (b ++ c)) (size a) (size a + size b) = some b := by
  rw [slice?, if_pos (Nat.le_add_right _ _), splitAt?_append, Nat.add_sub_cancel_left]
  simp only [Option.bind_eq_bind, Option.bind_some, splitAt?_append]
  rfl

end Utf8

namespace Cursor

theorem offset_read (cursor : Cursor) (content : List Char) (size : Nat) :
    (cursor.read content size).2.offset = cursor.offset + size := by
  rw [read_eq]
  split <;> rfl

/-- A finished span that does not reach the next line was open before it, and
    was not changed since. -/
theorem Snug.current_of_endLine_lt {cursor : Cursor} (hsnug : cursor.Snug) {lead : Nat}
    {lines : List Line} {later : Span} (h : later ∈ cursor.scan lead lines)
    (hend : later.endLine < cursor.number) :
    ∃ depth, cursor.current = some (later, depth) := by
  induction lines generalizing cursor lead with
  | nil =>
      simp only [scan, Option.mem_toList, Option.map_eq_some_iff] at h
      rcases h with ⟨⟨span, depth⟩, hcurrent, rfl⟩
      exact ⟨depth, hcurrent⟩
  | cons line rest ih =>
      -- What has joined the line ends on the line, so it is too late.
      have hno : ∀ depth,
          cursor.joined line.content (lead + line.size) ≠ some (later, depth) := by
        intro depth hjoined
        have hlast := (hsnug.endLine_joined hjoined).2
        omega
      rw [scan_cons] at h
      rcases List.mem_append.mp h with h | h
      · rcases mem_read h with hclosed | ⟨depth, hjoined⟩
        · exact (hsnug.of_closed hclosed).1
        · exact absurd hjoined (hno depth)
      · rcases ih (hsnug.read line.content (lead + line.size)) h (by rw [number_read]; omega) with
          ⟨depth, hcurrent⟩
        exact absurd (joined_of_current_read hcurrent) (hno depth)

/-- A finished span is the one that its last line has joined. -/
theorem Snug.joined_last {cursor : Cursor} (hsnug : cursor.Snug) {lead : Nat}
    {lines : List Line} {later : Span} (h : later ∈ cursor.scan lead lines)
    (hend : cursor.number ≤ later.endLine) :
    ∃ k line depth, cursor.number + k = later.endLine ∧ lines[k]? = some line ∧
      (cursor.upTo lead lines k).joined line.content (leadAt lead k + line.size) =
        some (later, depth) := by
  induction lines generalizing cursor lead with
  | nil =>
      simp only [scan, Option.mem_toList, Option.map_eq_some_iff] at h
      rcases h with ⟨⟨span, depth⟩, hcurrent, rfl⟩
      have hlast := hsnug.last span depth hcurrent
      exact absurd hend (by simp only; omega)
  | cons first rest ih =>
      have hnext := hsnug.read first.content (lead + first.size)
      -- The first line is the last one of the span that has joined it.
      have hfirst : ∀ depth, cursor.joined first.content (lead + first.size) =
          some (later, depth) → ∃ k line depth, cursor.number + k = later.endLine ∧
            (first :: rest)[k]? = some line ∧
            (cursor.upTo lead (first :: rest) k).joined line.content (leadAt lead k + line.size) =
              some (later, depth) := fun depth hjoined =>
        ⟨0, first, depth, (hsnug.endLine_joined hjoined).2.symm, rfl, hjoined⟩
      rw [scan_cons] at h
      rcases List.mem_append.mp h with h | h
      · rcases mem_read h with hclosed | ⟨depth, hjoined⟩
        · exact absurd (hsnug.of_closed hclosed).2 (Nat.not_lt.mpr hend)
        · exact hfirst depth hjoined
      · by_cases hlater : cursor.number + 1 ≤ later.endLine
        · rcases ih hnext h (by rw [number_read]; exact hlater) with
            ⟨k, line, depth, hnumber, hline, hjoined⟩
          rw [number_read] at hnumber
          have hlead : leadAt lead (k + 1) = leadAt 0 k := by cases k <;> rfl
          refine ⟨k + 1, line, depth, by omega, hline, ?_⟩
          rw [hlead]
          exact hjoined
        · rcases hnext.current_of_endLine_lt h (by rw [number_read]; omega) with ⟨depth, hcurrent⟩
          exact hfirst depth (joined_of_current_read hcurrent)

/-- Where a line closes a span, the span that it joins starts on the line. -/
theorem Snug.lt_of_closed {cursor : Cursor} (hsnug : cursor.Snug) {content : List Char}
    {size : Nat} {span other : Span} {depth : Int} (hclosed : span ∈ cursor.closed content)
    (hjoined : cursor.joined content size = some (other, depth)) :
    span.endLine < other.startLine := by
  rcases joined_cases hjoined with ⟨old, before, hcurrent, hstays, -, -⟩ | ⟨-, rfl, -⟩
  · simp [closed, hcurrent, hstays] at hclosed
  · exact (hsnug.of_closed hclosed).2

/-- What a line finishes comes before all that is finished later. -/
theorem Snug.lt_of_read {cursor : Cursor} (hsnug : cursor.Snug) {content : List Char} {size : Nat}
    {span later : Span} {lines : List Line} (h : span ∈ (cursor.read content size).1)
    (hlater : later ∈ (cursor.read content size).2.scan 0 lines) :
    span.endLine < later.startLine := by
  rcases (hsnug.read content size).extends_or_later hlater with
    ⟨current, depth, hcurrent, hextends⟩ | hstart
  · -- The line has joined the span that is still open, so it has finished only
    -- what it has closed.
    have hjoined := joined_of_current_read hcurrent
    rw [hextends.startLine]
    rw [current_read] at hcurrent
    split at hcurrent
    · cases hcurrent
    · rename_i hterm
      rw [read_eq, if_neg hterm] at h
      exact hsnug.lt_of_closed h hjoined
  · rw [number_read] at hstart
    rcases mem_read h with hclosed | ⟨depth, hjoined⟩
    · have hbefore := (hsnug.of_closed hclosed).2
      omega
    · have hlast := (hsnug.endLine_joined hjoined).2
      omega

theorem Snug.pairwise_read {cursor : Cursor} (hsnug : cursor.Snug) (content : List Char)
    (size : Nat) : (cursor.read content size).1.Pairwise fun a b => a.endLine < b.startLine := by
  have hclosed : (cursor.closed content).Pairwise fun a b => a.endLine < b.startLine := by
    unfold closed
    split
    · exact List.Pairwise.nil
    · split
      · exact List.pairwise_singleton _ _
      · exact List.Pairwise.nil
  rw [read_eq]
  split
  · refine List.pairwise_append.mpr ⟨hclosed, ?_, ?_⟩
    · cases cursor.joined content size with
      | none => exact List.Pairwise.nil
      | some current => exact List.pairwise_singleton _ _
    · intro span hspan other hother
      simp only [Option.mem_toList, Option.map_eq_some_iff] at hother
      rcases hother with ⟨⟨other, depth⟩, hjoined, rfl⟩
      exact hsnug.lt_of_closed hspan hjoined
  · exact hclosed

/-- The spans that a scan finishes are in order, and no line is on two of
    them. -/
theorem Snug.pairwise_scan {cursor : Cursor} (hsnug : cursor.Snug) (lead : Nat)
    (lines : List Line) :
    (cursor.scan lead lines).Pairwise fun a b => a.endLine < b.startLine := by
  induction lines generalizing cursor lead with
  | nil =>
      rw [scan]
      cases cursor.current with
      | none => exact List.Pairwise.nil
      | some current => exact List.pairwise_singleton _ _
  | cons line rest ih =>
      rw [scan_cons]
      refine List.pairwise_append.mpr ⟨hsnug.pairwise_read _ _, ih (hsnug.read _ _) 0, ?_⟩
      intro span hspan later hlater
      exact hsnug.lt_of_read hspan hlater

end Cursor

/-- A line can open a statement if it starts in code, is not blank, and begins
    with neither kind of comment. -/
theorem Statement.eligible_iff (lex : LexState) (body : List Char) :
    eligible (lex == .code) body = true ↔
      lex = .code ∧ body ≠ [] ∧ startsWith ['-', '-'] body = false ∧
        startsWith ['/', '*'] body = false := by
  simp only [eligible, isComment, isBlockComment, commentMarker, Bool.and_eq_true, beq_iff_eq,
    Bool.not_eq_true', List.isEmpty_eq_false_iff, and_assoc]

/-- The line with the given number, counted from one, is on the span. -/
def Span.Covers (span : Span) (n : Nat) : Prop :=
  span.startLine ≤ n ∧ n ≤ span.endLine

namespace Script

/-- The byte offset at which the line with the given index starts. -/
def offsetOf (script : Script) (k : Nat) : Nat :=
  Utf8.size (joinLines (script.lines.take k))

/-- The spans of a script before names and guards are filled in. -/
def scanned (script : Script) : List Span :=
  Cursor.start.scan (Utf8.size script.mark) script.body

/-- The lines of a span, as they stand in the text. -/
def linesOf (script : Script) (span : Span) : List Line :=
  (script.lines.drop (span.startLine - 1)).take (span.endLine - (span.startLine - 1))

/-- A line that can open a statement: it starts in code, is not blank, and
    begins with neither kind of comment. -/
def Active (script : Script) (k : Nat) (line : Line) : Prop :=
  script.stateBefore k = .code ∧ bodyOf line.content ≠ [] ∧
    startsWith ['-', '-'] (bodyOf line.content) = false ∧
    startsWith ['/', '*'] (bodyOf line.content) = false

section Extent

variable {script : Script} {k : Nat} {line : Line} {span : Span} {depth : Int}

theorem active_iff (k : Nat) (line : Line) :
    script.Active k line ↔
      Statement.eligible (script.stateBefore k == .code) (bodyOf line.content) = true :=
  (Statement.eligible_iff _ _).symm

/-- The bytes of a line, a mark before the first one included. -/
theorem offsetOf_succ (h : script.body[k]? = some line) :
    script.offsetOf (k + 1) =
      script.offsetOf k + (Cursor.leadAt (Utf8.size script.mark) k + line.size) := by
  have hline : ∃ whole, script.lines[k]? = some whole ∧
      whole.size = Cursor.leadAt (Utf8.size script.mark) k + line.size := by
    rw [lines_eq_withMark]
    cases hbody : script.body with
    | nil =>
        rw [hbody] at h
        cases h
    | cons first rest =>
        rw [hbody] at h
        cases k with
        | zero =>
            cases h
            refine ⟨_, rfl, ?_⟩
            simp only [Line.size, Line.chars, Utf8.size_append, Cursor.leadAt, Nat.add_assoc]
        | succ k => exact ⟨line, h, (Nat.zero_add _).symm⟩
  rcases hline with ⟨whole, hwhole, hsize⟩
  rw [← hsize]
  simp only [offsetOf, List.take_add_one, hwhole, Option.toList_some, joinLines,
    List.flatMap_append, List.flatMap_singleton, Utf8.size_append, Line.size]

/-- The offset that a scan has counted before a line. -/
theorem offset_cursorAt (hk : k ≤ script.body.length) :
    (script.cursorAt k).offset = script.offsetOf k := by
  induction k with
  | zero =>
      rw [cursorAt_zero]
      rfl
  | succ k ih =>
      have hline := List.getElem?_eq_getElem hk
      rw [cursorAt_succ hline, Cursor.offset_read, ih (Nat.le_of_lt hk), offsetOf_succ hline]

/-- A finished span is the one that its last line has joined. It lies within
    the script. -/
theorem joinedAt_last (h : span ∈ script.scanned) :
    (1 ≤ span.startLine ∧ span.startLine ≤ span.endLine) ∧
      ∃ last depth, script.body[span.endLine - 1]? = some last ∧
        script.joinedAt (span.endLine - 1) = some (span, depth) := by
  have hsnug := Cursor.snug_start
  have hstart := Cursor.one_le_startLine h
  have hend : 1 ≤ span.endLine := by
    by_contra hlt
    rcases hsnug.current_of_endLine_lt h (Nat.lt_of_not_le hlt) with ⟨depth, hcurrent⟩
    cases hcurrent
  rcases hsnug.joined_last h hend with ⟨k, last, depth, hnumber, hlast, hjoined⟩
  change 1 + k = span.endLine at hnumber
  obtain rfl : k = span.endLine - 1 := by omega
  refine ⟨⟨hstart, ((hsnug.upTo _ _ _).endLine_joined hjoined).1⟩, last, depth, hlast, ?_⟩
  rw [joinedAt_eq hlast]
  exact hjoined

/-- Each line of a finished span has joined an earlier form of it. -/
theorem joinedAt_of_covers (h : span ∈ script.scanned) (hcovers : span.Covers (k + 1)) :
    ∃ line joined depth, script.body[k]? = some line ∧
      script.joinedAt k = some (joined, depth) ∧ joined.Extends span := by
  rcases hcovers with ⟨hstart, hend⟩
  rw [Nat.add_comm] at hstart hend
  rcases Cursor.snug_start.joined_of_covered h hstart hend with
    ⟨line, joined, depth, hline, hjoined, hextends⟩
  refine ⟨line, joined, depth, hline, ?_, hextends⟩
  rw [joinedAt_eq hline]
  exact hjoined

/-- A finished span is a later form of the one that its first line has
    opened. -/
theorem exists_opened (h : span ∈ script.scanned) :
    ∃ first, script.body[span.startLine - 1]? = some first ∧
      script.Active (span.startLine - 1) first ∧
      ((script.cursorAt (span.startLine - 1)).opened first.content
        (Cursor.leadAt (Utf8.size script.mark) (span.startLine - 1) + first.size)).Extends
          span := by
  rcases joinedAt_last h with ⟨⟨hone, horder⟩, -⟩
  have hnumber : span.startLine - 1 + 1 = span.startLine := Nat.sub_add_cancel hone
  rcases joinedAt_of_covers (k := span.startLine - 1) h ⟨by omega, by omega⟩ with
    ⟨first, joined, depth, hfirst, hjoined, hextends⟩
  refine ⟨first, hfirst, ?_⟩
  have hk := Nat.le_of_lt (List.getElem?_eq_some_iff.mp hfirst).1
  rw [joinedAt_eq hfirst] at hjoined
  rcases Cursor.joined_cases hjoined with ⟨old, before, hcurrent, -, rfl, -⟩ | ⟨helig, rfl, -⟩
  · -- A span that was open before its first line would start before it.
    have hbefore := (depth_cursorAt hk hcurrent).1
    have hstart : span.startLine = old.startLine := hextends.startLine
    omega
  · refine ⟨(active_iff _ _).mpr ?_, hextends⟩
    rw [← lex_cursorAt hk]
    exact helig

/-- The offsets of a finished span are those of its first line and of the line
    after its last. -/
theorem offsets_of_scanned (h : span ∈ script.scanned) :
    span.startOffset = script.offsetOf (span.startLine - 1) ∧
      span.endOffset = script.offsetOf span.endLine := by
  constructor
  · rcases exists_opened h with ⟨first, hfirst, -, hextends⟩
    rw [hextends.startOffset]
    exact offset_cursorAt (Nat.le_of_lt (List.getElem?_eq_some_iff.mp hfirst).1)
  · rcases joinedAt_last h with ⟨⟨hone, horder⟩, last, depth, hlast, hjoined⟩
    have hk := Nat.le_of_lt (List.getElem?_eq_some_iff.mp hlast).1
    have hstop : span.endOffset = (script.cursorAt (span.endLine - 1)).offset +
        (Cursor.leadAt (Utf8.size script.mark) (span.endLine - 1) + last.size) := by
      rw [joinedAt_eq hlast] at hjoined
      rcases Cursor.joined_cases hjoined with ⟨old, before, -, -, heq, -⟩ | ⟨-, heq, -⟩
      · exact congrArg Span.endOffset heq
      · exact congrArg Span.endOffset heq
    rw [hstop, offset_cursorAt hk, ← offsetOf_succ hlast]
    congr 1
    omega

/-- The lines of a script from one index up to another are found between their
    offsets. -/
theorem slice?_lines (script : Script) (i n : Nat) :
    Utf8.slice? script.text (script.offsetOf i) (script.offsetOf (i + n)) =
      some (joinLines ((script.lines.drop i).take n)) := by
  have happend : ∀ a b : List Line, joinLines (a ++ b) = joinLines a ++ joinLines b := by
    intro a b
    exact List.flatMap_append
  have hupto : script.lines.take (i + n) =
      script.lines.take i ++ (script.lines.drop i).take n := List.take_add
  have htext : script.text = joinLines (script.lines.take i) ++
      (joinLines ((script.lines.drop i).take n) ++ joinLines (script.lines.drop (i + n))) := by
    rw [← List.append_assoc, ← happend, ← hupto, ← happend, List.take_append_drop]
    exact (joinLines_splitLines script.text).symm
  have hoffset : script.offsetOf (i + n) =
      script.offsetOf i + Utf8.size (joinLines ((script.lines.drop i).take n)) := by
    rw [offsetOf, hupto, happend, Utf8.size_append]
    rfl
  rw [hoffset, htext]
  exact Utf8.slice?_append _ _ _

/-- Every line that can open a statement belongs to a span. -/
theorem exists_joinedAt (h : script.body[k]? = some line) (hactive : script.Active k line) :
    ∃ span depth, script.joinedAt k = some (span, depth) := by
  have helig := (active_iff _ _).mp hactive
  cases hcurrent : (script.cursorAt k).current with
  | none =>
      rcases joinedAt_of_stops h helig (by simp [hcurrent]) with ⟨span, hjoined, -⟩
      exact ⟨span, _, hjoined⟩
  | some current =>
      rcases current with ⟨span, depth⟩
      -- The open span takes the line in, or gives way to a new one.
      cases hstops : span.stopsBefore depth (script.stateBefore k == .code)
          (bodyOf line.content) with
      | false =>
          rcases joinedAt_of_stays h hcurrent hstops with ⟨later, hjoined, -⟩
          exact ⟨later, _, hjoined⟩
      | true =>
          have hall : ∀ other before, (script.cursorAt k).current = some (other, before) →
              other.stopsBefore before (script.stateBefore k == .code) (bodyOf line.content)
                = true := by
            intro other before hother
            rw [hcurrent] at hother
            cases hother
            exact hstops
          rcases joinedAt_of_stops h helig hall with ⟨later, hjoined, -⟩
          exact ⟨later, _, hjoined⟩

end Extent

variable (script : Script)

/-- The spans of a script are in order, and no line is on two of them. -/
theorem pairwise_spans : script.spans.Pairwise fun a b => a.endLine < b.startLine := by
  rw [spans, List.pairwise_map]
  refine (Cursor.snug_start.pairwise_scan _ _).imp ?_
  intro a b hlt
  rcases Span.fillSplit_eq script.lines a with ⟨table, guard, ha⟩
  rcases Span.fillSplit_eq script.lines b with ⟨table', guard', hb⟩
  rw [ha, hb]
  exact hlt

variable {script}

/-- No line is on two spans. -/
theorem eq_of_covers {a b : Span} {n : Nat} (ha : a ∈ script.spans) (hb : b ∈ script.spans)
    (han : a.Covers n) (hbn : b.Covers n) : a = b := by
  have hpairs := pairwise_spans script
  have hdistinct : ∀ x y : Span, x.endLine < y.startLine → x.Covers n → y.Covers n → False := by
    intro x y hlt hx hy
    exact absurd (Nat.le_trans hy.1 hx.2) (Nat.not_le.mpr hlt)
  have hsame : script.spans.Pairwise fun x y => x.Covers n → y.Covers n → x = y :=
    hpairs.imp fun hlt hx hy => (hdistinct _ _ hlt hx hy).elim
  have hsame' : script.spans.Pairwise fun x y => y.Covers n → x.Covers n → y = x :=
    hpairs.imp fun hlt hy hx => (hdistinct _ _ hlt hx hy).elim
  exact hsame.forall_of_forall_of_flip (fun _ _ _ _ => rfl) hsame' ha hb han hbn

/-- The spans of a script partition its statements. They are in order and none
    reaches into the next. The offsets of a span cut exactly its lines out of
    the text, terminators and mark included; it opens on a line that can open a
    statement, and has the kind and the indentation of that line. And each line
    that can open a statement is on exactly one span. -/
theorem spans_partition (script : Script) :
    script.spans.Pairwise (fun a b => a.endLine < b.startLine) ∧
    (∀ span ∈ script.spans,
      (1 ≤ span.startLine ∧ span.startLine ≤ span.endLine ∧
        span.endLine ≤ script.lines.length) ∧
      Utf8.slice? script.text span.startOffset span.endOffset =
        some (joinLines (script.linesOf span)) ∧
      ∃ first, script.body[span.startLine - 1]? = some first ∧
        script.Active (span.startLine - 1) first ∧
        span.kind = Statement.kindOf (bodyOf first.content) ∧
        span.indent = indentOf first.content) ∧
    (∀ k line, script.body[k]? = some line → script.Active k line →
      ∃! span, span ∈ script.spans ∧ span.Covers (k + 1)) := by
  refine ⟨pairwise_spans script, ?_, ?_⟩
  · intro span hspan
    rcases List.mem_map.mp hspan with ⟨raw, hraw, rfl⟩
    rcases Span.fillSplit_eq script.lines raw with ⟨table, guard, heq⟩
    rw [heq]
    rcases joinedAt_last hraw with ⟨⟨hone, horder⟩, last, depth, hlast, -⟩
    rcases exists_opened hraw with ⟨first, hfirst, hactive, hextends⟩
    rcases offsets_of_scanned hraw with ⟨hstart, hstop⟩
    have hlength := (List.getElem?_eq_some_iff.mp hlast).1
    rw [length_body] at hlength
    have hwithin : raw.endLine = raw.startLine - 1 + (raw.endLine - (raw.startLine - 1)) := by
      omega
    refine ⟨⟨hone, horder, by simp only; omega⟩, ?_, first, hfirst, hactive, hextends.kind,
      hextends.indent⟩
    have hslice := slice?_lines script (raw.startLine - 1)
      (raw.endLine - (raw.startLine - 1))
    rw [← hwithin, ← hstart, ← hstop] at hslice
    exact hslice
  · intro k line hline hactive
    rcases exists_joinedAt hline hactive with ⟨span, depth, hjoined⟩
    rcases (exists_span_iff script k fun _ _ => True).mpr ⟨span, depth, hjoined, trivial⟩ with
      ⟨later, hlater, hstart, hend, -⟩
    refine ⟨later, ⟨hlater, hstart, hend⟩, ?_⟩
    rintro other ⟨hother, hcovers⟩
    exact eq_of_covers hother hlater hcovers ⟨hstart, hend⟩

end Script

end Rerun
