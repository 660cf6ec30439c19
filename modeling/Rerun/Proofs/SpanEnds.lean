import Rerun.Proofs.SpanExtents

/-!
# Where Spans End

A span ends for one of three reasons, and for no other: a semicolon on its
last line, a line after it that the rules say it stops before, or the end of
the script.

The rules for the second reason are put here as a property of lines alone.
`StopLine` speaks of the lexical state in which a line starts, of the words it
begins with, and of the parentheses that the lines of the span before it have
left open, summed up anew for each span. The scan knows none of this in that
form. It carries one count of parentheses along, and it is `depth_cursorAt`
that finds the sum in it. The count has 32 bits. In a script of less than
`2 ^ 31` characters no sum of parentheses can leave that range, so there the
count is the sum itself (`openParens_eq_sum`).

That no line inside of a span stops it follows from the lines that have joined
it, one by one. That an unterminated span has a reason to end is shown the
other way around: if the next line did not stop it, the line would have joined
it, and two spans of the script would start on the same line.

## Main definitions

* `Script.terminates`: Whether a semicolon stands in the code of a line.
* `Script.StopLine`: A line that a span stops before.

## Theorems

* `Script.openParens_eq_sum`: The count of parentheses in a script that is not
  too long.
* `Script.stays_of_covers`: What is known before a later line of a span.
* `Script.stops_after`: An unterminated span is stopped by the line after it.
* `Script.spans_end`: Where the spans of a script end.
-/

namespace Rerun

open Text LexState

namespace Script

/-- Whether a semicolon stands in the code of the line with the given
    index. -/
def terminates (script : Script) (k : Nat) : Bool :=
  script.body[k]?.any fun line => ((script.stateBefore k).advance line.content).terminated

/-- A line that a span stops before. A `DROP TABLE` stops where it is not
    carried on. Any other statement stops before a line that can open a
    statement and begins one, if the lines of the span before it have left no
    parentheses open. -/
def StopLine (script : Script) (span : Span) (k : Nat) (line : Line) : Prop :=
  if span.kind = .dropTable then
    Statement.continuesDrop (script.stateBefore k == .code) (bodyOf line.content) = false
  else
    script.Active k line ∧ script.openParens (span.startLine - 1) k ≤ 0 ∧
      Statement.opens (bodyOf line.content) = true

/-- The lines up to a certain one have at least as many characters as any of
    them together are out of balance. -/
theorem natAbs_sum_balance_le (script : Script) (i k : Nat) :
    (∑ j ∈ Finset.Ico i k, script.balance j).natAbs ≤
      (joinLines (script.body.take k)).length := by
  induction k with
  | zero => simp
  | succ k ih =>
      by_cases hi : k < i
      · rw [Finset.Ico_eq_empty_of_le hi, Finset.sum_empty]
        exact Nat.zero_le _
      · rw [Finset.sum_Ico_succ_top (by omega)]
        refine Nat.le_trans (Int.natAbs_add_le _ _) ?_
        by_cases hk : k < script.body.length
        · -- The line makes the text longer by at least what it adds to the sum.
          have hbalance : (script.balance k).natAbs ≤ script.body[k].content.length := by
            rw [balance, List.getElem?_eq_getElem hk]
            exact natAbs_depth_le _ _
          have hlonger : (joinLines (script.body.take (k + 1))).length =
              (joinLines (script.body.take k)).length + script.body[k].chars.length := by
            rw [List.take_succ_eq_append_getElem hk, joinLines, List.flatMap_append]
            simp [joinLines]
          have hchars : script.body[k].content.length ≤ script.body[k].chars.length := by
            rw [Line.chars, List.length_append]
            exact Nat.le_add_right _ _
          omega
        · rw [balance, List.getElem?_eq_none (by omega), List.take_of_length_le (by omega)]
          rw [List.take_of_length_le (by omega)] at ih
          simpa using ih

/-- In a script that is not too long the count of parentheses is the sum of the
    balances. -/
theorem openParens_eq_sum {script : Script} (h : script.text.length < 2 ^ 31) (i k : Nat) :
    script.openParens i k = ∑ j ∈ Finset.Ico i k, script.balance j := by
  have hsum := natAbs_sum_balance_le script i k
  have htake : (joinLines (script.body.take k)).length ≤ (joinLines script.body).length := by
    conv_rhs => rw [← List.take_append_drop k script.body, joinLines, List.flatMap_append]
    rw [List.length_append]
    exact Nat.le_add_right _ _
  have htext : script.text.length = script.mark.length + (joinLines script.body).length := by
    conv_lhs => rw [text_eq_mark_append script, List.length_append]
  exact wrap32_eq_self (by omega) (by omega)

section Ends

variable {script : Script} {k : Nat} {line : Line} {span : Span}

theorem terminates_eq (h : script.body[k]? = some line) :
    script.terminates k = ((script.stateBefore k).advance line.content).terminated := by
  rw [terminates, h, Option.any_some]

/-- The rule of the scan, put to the parentheses that the span has left
    open. -/
theorem stopLine_iff (k : Nat) (line : Line) (span : Span) :
    script.StopLine span k line ↔
      span.stopsBefore (script.openParens (span.startLine - 1) k)
        (script.stateBefore k == .code) (bodyOf line.content) = true := by
  unfold StopLine Span.stopsBefore
  cases span.kind with
  | dropTable => simp
  | createTable => simp [active_iff, and_assoc]
  | other => simp [active_iff, and_assoc]

/-- Only the kind of a span and the line it starts on decide where it
    stops. -/
theorem stopLine_congr {other : Span} (hkind : other.kind = span.kind)
    (hstart : other.startLine = span.startLine) (k : Nat) (line : Line) :
    script.StopLine other k line ↔ script.StopLine span k line := by
  rw [StopLine, StopLine, hkind, hstart]

/-- Before a line of a span that is not its first one, the span was open, and
    the line did not stop it. -/
theorem stays_of_covers (h : span ∈ script.scanned) (hline : script.body[k]? = some line)
    (hlater : span.startLine ≤ k) (hend : k + 1 ≤ span.endLine) :
    (∃ old depth, (script.cursorAt k).current = some (old, depth)) ∧
      ¬ script.StopLine span k line := by
  rcases joinedAt_of_covers h ⟨Nat.le_succ_of_le hlater, hend⟩ with
    ⟨other, joined, depth, hother, hjoined, hextends⟩
  rw [hline, Option.some.injEq] at hother
  subst hother
  rcases joinedAt_cases hline hjoined with ⟨old, before, hcurrent, hstays, hkind, hstart, -⟩ |
    ⟨-, -, hstart, -⟩
  · refine ⟨⟨old, before, hcurrent⟩, ?_⟩
    have hk := Nat.le_of_lt (List.getElem?_eq_some_iff.mp hline).1
    rw [← stopLine_congr (hkind.symm.trans hextends.kind.symm)
      (hstart.symm.trans hextends.startLine.symm), stopLine_iff, ← (depth_cursorAt hk hcurrent).2,
      hstays]
    exact Bool.false_ne_true
  · rw [← hextends.startLine] at hstart
    omega

/-- A line after which a span goes on has no semicolon in its code. -/
theorem not_terminates_of_covers (h : span ∈ script.scanned) (hstart : span.startLine ≤ k + 1)
    (hend : k + 1 < span.endLine) : script.terminates k = false := by
  rcases joinedAt_of_covers (k := k + 1) h ⟨Nat.le_succ_of_le hstart, hend⟩ with
    ⟨next, -, -, hnext, -⟩
  have hk : k < script.body.length := Nat.lt_of_succ_lt (List.getElem?_eq_some_iff.mp hnext).1
  have hline := List.getElem?_eq_getElem hk
  rcases (stays_of_covers h hnext hstart hend).1 with ⟨old, depth, hcurrent⟩
  -- A semicolon would have left no span open.
  rw [current_cursorAt_succ hline] at hcurrent
  rw [terminates_eq hline]
  split at hcurrent
  · cases hcurrent
  · exact Bool.eq_false_iff.mpr ‹_›

/-- A span is terminated exactly if its last line has a semicolon in its
    code. -/
theorem terminated_eq (h : span ∈ script.scanned) :
    span.terminated = script.terminates (span.endLine - 1) := by
  rcases joinedAt_last h with ⟨-, last, depth, hlast, hjoined⟩
  rw [terminates_eq hlast,
    ← lex_cursorAt (Nat.le_of_lt (List.getElem?_eq_some_iff.mp hlast).1)]
  rw [joinedAt_eq hlast] at hjoined
  rcases Cursor.joined_cases hjoined with ⟨old, before, -, -, heq, -⟩ | ⟨-, heq, -⟩
  · exact congrArg Span.terminated heq
  · exact congrArg Span.terminated heq

/-- An unterminated span is stopped by the line after it. -/
theorem stops_after (h : span ∈ script.scanned) (hopen : span.terminated = false)
    (hnext : script.body[span.endLine]? = some line) :
    script.StopLine span span.endLine line := by
  rcases joinedAt_last h with ⟨⟨hone, horder⟩, last, depth, hlast, hjoined⟩
  have hnumber : span.endLine - 1 + 1 = span.endLine := by omega
  have hcurrent : (script.cursorAt span.endLine).current = some (span, depth) := by
    rw [terminated_eq h, terminates_eq hlast] at hopen
    rw [← hnumber, current_cursorAt_succ hlast, hopen, hjoined]
    rfl
  by_contra hstays
  rw [stopLine_iff, Bool.not_eq_true] at hstays
  have hk := Nat.le_of_lt (List.getElem?_eq_some_iff.mp hnext).1
  rw [← (depth_cursorAt hk hcurrent).2] at hstays
  -- The line would have joined the span, and some span would start where this
  -- one does and reach further.
  rcases joinedAt_of_stays hnext hcurrent hstays with ⟨grown, hgrown, -, hgrownStart⟩
  rcases (exists_span_iff script span.endLine fun _ start => start = span.startLine).mpr
    ⟨grown, _, hgrown, hgrownStart⟩ with ⟨longer, hlonger, -, hend, hstart⟩
  have hspan : span.fillSplit script.lines ∈ script.spans := List.mem_map_of_mem h
  rcases Span.fillSplit_eq script.lines span with ⟨table, guard, heq⟩
  have hsame : longer = span.fillSplit script.lines := by
    refine eq_of_covers (n := span.startLine) hlonger hspan ⟨by omega, by omega⟩ ?_
    rw [heq]
    exact ⟨Nat.le_refl _, horder⟩
  rw [hsame, heq] at hend
  exact absurd hend (Nat.not_succ_le_self _)

end Ends

/-- The spans of a script end where the rules say. Up to its last line a span
    meets no semicolon, and it is terminated exactly if there is one on its last
    line. No line of it but the first is one that it would stop before; and
    if it is not terminated, it stops before the line after it, unless the
    script ends there. The parentheses that `StopLine` looks at are counted in
    32 bits, which is their sum in any script of less than `2 ^ 31`
    characters. -/
theorem spans_end {script : Script} {span : Span} (h : span ∈ script.spans) :
    (∀ k, span.startLine ≤ k + 1 → k + 1 < span.endLine → script.terminates k = false) ∧
    span.terminated = script.terminates (span.endLine - 1) ∧
    (∀ k line, script.body[k]? = some line → span.startLine < k + 1 → k + 1 ≤ span.endLine →
      ¬ script.StopLine span k line) ∧
    (span.terminated = false → ∀ next, script.body[span.endLine]? = some next →
      script.StopLine span span.endLine next) ∧
    (script.text.length < 2 ^ 31 → ∀ k, script.openParens (span.startLine - 1) k =
      ∑ j ∈ Finset.Ico (span.startLine - 1) k, script.balance j) := by
  rcases List.mem_map.mp h with ⟨raw, hraw, rfl⟩
  have hinside : ∀ k, raw.startLine ≤ k + 1 → k + 1 < raw.endLine → script.terminates k = false :=
    fun _ => not_terminates_of_covers hraw
  have hlast : raw.terminated = script.terminates (raw.endLine - 1) := terminated_eq hraw
  have hstays : ∀ k line, script.body[k]? = some line → raw.startLine < k + 1 →
      k + 1 ≤ raw.endLine → ¬ script.StopLine raw k line :=
    fun _ _ hline hlater hend => (stays_of_covers hraw hline (Nat.le_of_lt_succ hlater) hend).2
  have hstops : raw.terminated = false → ∀ next, script.body[raw.endLine]? = some next →
      script.StopLine raw raw.endLine next := fun hopen _ hnext => stops_after hraw hopen hnext
  -- A name and a guard filled in later have no part in any of this.
  rcases Span.fillSplit_eq script.lines raw with ⟨table, guard, heq⟩
  rw [heq]
  exact ⟨hinside, hlast, hstays, hstops, fun hshort k => openParens_eq_sum hshort _ k⟩

/-- A line that begins a statement does not stop a span while parentheses are
    open, and does so when they are closed. -/
theorem spans_end_parentheses :
    let script : Script := ⟨"INSERT INTO t VALUES (\nSELECT 1\n)\nDROP TABLE a;\n".toList⟩
    let span : Span := ⟨.other, 1, 3, 0, 34, [], none, none, false⟩
    span ∈ script.spans ∧ ¬ script.StopLine span 1 ⟨"SELECT 1".toList, .lf⟩ ∧
      script.StopLine span 3 ⟨"DROP TABLE a;".toList, .lf⟩ := by
  intro script span
  have hspan : span ∈ script.spans := by decide
  have hends := spans_end hspan
  exact ⟨hspan, hends.2.2.1 1 _ rfl (by decide) (by decide), hends.2.2.2.1 rfl _ rfl⟩

end Script

end Rerun
