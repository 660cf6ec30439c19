import Mathlib.Data.List.Induction
import Rerun.Proofs.ByteLexing
import Rerun.Proofs.LetterCase
import Rerun.Proofs.SpanExtents

/-!
# Reading the Text as a Whole

A script is lexed line by line, with a state carried over from each line to
the next. Here the same rules read the text as a whole, as a sequence of bytes
with no lines in it, and both readings are shown to agree
(`Script.lines_read_as_text`).

The whole text asks for two things that lines do not. A line comment has to
be a region of its own, which ends at the next line feed; read by lines, it
hides what is left of its line and is forgotten. And a backslash at the end of
a line takes the first byte of the terminator along, where by lines the pair
ends with the line. Neither a line feed nor a carriage return passes a test, so
being taken along is all that can happen to them, and what follows is read
alike.

## Main definitions

* `Region`: Where a byte stands in the text as a whole.
* `Region.read`: The bytes of a text, each with the region it stands in.
* `Region.ofState`: The region that a state at the start of a line stands for.
* `Region.Shows`: What is met in code, seen from both sides.

## Theorems

* `LexState.advance_chars`: A terminator has no effect on its line.
* `Region.read_step`: One rule of the lexer, read off the whole text.
* `Region.read_line`: A line is read as the lexer reads it.
* `Region.count_of_shows`: What is met in code is met as often on both sides.
* `Region.drop_read`: The rest of a text is read from the state before it.
* `Script.lines_read_as_text`: The state before each line, its semicolons and
  its parentheses are those of the whole text.
-/

namespace Rerun

/-- Where a byte stands in the text as a whole. -/
inductive Region where
  | code
  | lineComment
  | blockComment
  | literal (quote : Char)
deriving DecidableEq, Repr

namespace Region

open Utf8

/-- The region that a state at the beginning of a line stands for. -/
def ofState : LexState → Region
  | .code => code
  | .blockComment => blockComment
  | .quoted q => literal q

/-- The region after two bytes that are read together, if they are. -/
def pair? : Region → UInt8 → UInt8 → Option Region
  | code, a, b =>
    if a = byte '-' ∧ b = byte '-' then some lineComment
    else if a = byte '/' ∧ b = byte '*' then some blockComment
    else none
  | lineComment, _, _ => none
  | blockComment, a, b => if a = byte '*' ∧ b = byte '/' then some code else none
  | literal q, a, b =>
    -- A backslash takes any byte along, and a quote takes a second one.
    if (a = byte '\\' ∧ q ≠ '\x60') ∨ (a = byte q ∧ b = byte q) then some (literal q) else none

/-- The region after a byte that is read alone. -/
def single : Region → UInt8 → Region
  | code, a =>
    if a = byte '\x27' then literal '\x27'
    else if a = byte '\x22' then literal '\x22'
    else if a = byte '\x60' then literal '\x60'
    else code
  | lineComment, a => if a = byte '\n' then code else lineComment
  | blockComment, _ => blockComment
  | literal q, a => if a = byte q then code else literal q

/-- The bytes of a text, each with the region it is read in. -/
def read : Region → List UInt8 → List (Region × UInt8)
  | _, [] => []
  | region, [a] => [(region, a)]
  | region, a :: b :: rest =>
    match region.pair? a b with
    | some next => (region, a) :: (region, b) :: read next rest
    | none => (region, a) :: read (region.single a) (b :: rest)

/-- The first byte is read in the region that the text begins in. -/
theorem head?_read (region : Region) (text : List UInt8) :
    (read region text).head? = text.head?.map fun a => (region, a) := by
  cases text with
  | nil => rfl
  | cons a more =>
      cases more with
      | nil => rfl
      | cons b rest =>
          rw [read]
          cases region.pair? a b <;> rfl

/-- Reading two bytes is applying the rule for the first of them. -/
theorem read_step {s : LexState} (hs : s.Real) (a b : UInt8) (rest : List UInt8) :
    read (ofState s) (a :: b :: rest) =
      match LexState.step s a (some b) with
      | .comment => (code, a) :: (code, b) :: read lineComment rest
      | .code => (code, a) :: read code (b :: rest)
      | .hide t true => (ofState s, a) :: (ofState s, b) :: read (ofState t) rest
      | .hide t false => (ofState s, a) :: read (ofState t) (b :: rest) := by
  rw [read]
  cases s with
  | code =>
      by_cases hdash : a = byte '-' ∧ b = byte '-'
      · rw [hdash.1, hdash.2]
        rfl
      by_cases hstar : a = byte '/' ∧ b = byte '*'
      · rw [hstar.1, hstar.2]
        rfl
      -- Only the markers of comments are pairs. A quote is read alone.
      have hpair : pair? code a b = none := by rw [pair?, if_neg hdash, if_neg hstar]
      by_cases hquote : a = byte '\x27' ∨ a = byte '\x22' ∨ a = byte '\x60'
      · rcases hquote with rfl | rfl | rfl
        all_goals
          rw [ofState, hpair]
          rfl
      · rw [not_or, not_or] at hquote
        rcases hquote with ⟨hapostrophe, hquotation, hgrave⟩
        have hstep : LexState.step .code a (some b) = .code := by
          simp [LexState.step, LexState.unit_byte, LexState.quotes, hdash, hstar, hapostrophe,
            hquotation, hgrave]
        simp only [ofState, hpair, hstep, single, if_neg hapostrophe, if_neg hquotation,
          if_neg hgrave]
  | blockComment =>
      by_cases hends : a = byte '*' ∧ b = byte '/'
      · rw [hends.1, hends.2]
        rfl
      · have hstep : LexState.step .blockComment a (some b) = .hide .blockComment false := by
          simp [LexState.step, LexState.unit_byte, hends]
        simp only [ofState, pair?, if_neg hends, hstep, single]
  | quoted q =>
      -- The rule knows a quote by its byte, and so it must tell the quotes apart.
      have hgrave : byte q = byte '\x60' ↔ q = '\x60' :=
        byte_inj (LexState.ascii_of_tested q (LexState.tested_of_quotes q hs)) (by decide)
      have hslash : byte q ≠ byte '\\' := by
        rw [Ne, byte_inj (LexState.ascii_of_tested q (LexState.tested_of_quotes q hs)) (by decide)]
        intro hq
        have hquotes : q ∈ LexState.quotes := hs
        rw [hq] at hquotes
        exact absurd hquotes (by decide)
      by_cases hback : a = byte '\\' ∧ q ≠ '\x60'
      · have hpair : pair? (literal q) a b = some (literal q) := if_pos (Or.inl hback)
        have hstep : LexState.step (.quoted q) a (some b) = .hide (.quoted q) true := by
          simp [LexState.step, LexState.unit_byte, hback, hgrave]
        simp only [ofState, hpair, hstep]
      by_cases hdouble : a = byte q ∧ b = byte q
      · have hpair : pair? (literal q) a b = some (literal q) := if_pos (Or.inr hdouble)
        have hstep : LexState.step (.quoted q) a (some b) = .hide (.quoted q) true := by
          simp [LexState.step, LexState.unit_byte, hdouble]
        simp only [ofState, hpair, hstep]
      have hpair : pair? (literal q) a b = none := if_neg (not_or.mpr ⟨hback, hdouble⟩)
      by_cases hclose : a = byte q
      · have hstep : LexState.step (.quoted q) a (some b) = .hide .code false := by
          rw [hclose, eq_self, true_and] at hdouble
          simp [LexState.step, LexState.unit_byte, hclose, hslash, hdouble]
        simp only [ofState, hpair, hstep, single, if_pos hclose]
      · have hstep : LexState.step (.quoted q) a (some b) = .hide (.quoted q) false := by
          simp [LexState.step, LexState.unit_byte, hback, hclose, hgrave]
        simp only [ofState, hpair, hstep, single, if_neg hclose]

/-- The characters that a line is judged by. -/
def judged : List Char :=
  [';', '(', ')']

/-- The whole text and the walk along a line agree on a byte: if one of them
    meets a judged character in code, then so does the other. -/
def Shows (entry : Region × UInt8) (seen : Option UInt8) : Prop :=
  ∀ c ∈ judged, entry = (code, byte c) ↔ seen = some (byte c)

theorem shows_code (a : UInt8) : Shows (code, a) (some a) := by
  intro c _
  simp only [Prod.mk.injEq, true_and, Option.some.injEq]

/-- What stands outside code shows nothing. -/
theorem shows_of_ne_code {region : Region} (h : region ≠ code) (a : UInt8) :
    Shows (region, a) none := by
  intro c _
  simp only [Prod.mk.injEq, h, false_and, reduceCtorEq]

/-- What begins a comment or a literal stands in code, and shows nothing. -/
theorem shows_special {c : Char} (hc : c ∈ LexState.special) : Shows (code, byte c) none := by
  have hall : LexState.special.all (fun c => judged.all fun d => byte c != byte d) = true := by
    decide
  intro d hd
  have hne := List.all_eq_true.mp (List.all_eq_true.mp hall c hc) d hd
  rw [bne_iff_ne] at hne
  simp [hne]

/-- What a rule hides shows nothing. -/
theorem shows_of_hide {s t : LexState} {a : UInt8} {next : Option UInt8} {pair : Bool}
    (h : LexState.step s a next = .hide t pair) :
    Shows (ofState s, a) none ∧ (pair = true → ∀ b ∈ next, Shows (ofState s, b) none) := by
  cases s with
  | code =>
      simp only [LexState.step] at h
      split at h
      · cases h
      · split at h
        · rename_i hstar
          rw [Bool.and_eq_true] at hstar
          have ha : a = byte '/' := eq_of_beq hstar.1
          refine ⟨?_, ?_⟩
          · rw [ha]
            exact shows_special (by decide : '/' ∈ LexState.special)
          · intro _ b hb
            rw [Option.mem_def.mp hb] at hstar
            have hb : b = byte '*' := eq_of_beq hstar.2
            rw [hb]
            exact shows_special (by decide : '*' ∈ LexState.special)
        · split at h
          · rename_i q hq
            cases h
            have hbyte := List.find?_some hq
            have ha : a = byte q := eq_of_beq hbyte
            rw [ha]
            have hspecial := LexState.special_of_quotes q (List.mem_of_find?_eq_some hq)
            exact ⟨shows_special hspecial, by simp⟩
          · cases h
  | blockComment =>
      have hregion : ofState .blockComment ≠ code := by simp [ofState]
      exact ⟨shows_of_ne_code hregion a, fun _ b _ => shows_of_ne_code hregion b⟩
  | quoted q =>
      have hregion : ofState (.quoted q) ≠ code := by simp [ofState]
      exact ⟨shows_of_ne_code hregion a, fun _ b _ => shows_of_ne_code hregion b⟩

/-- What a rule leaves as code stands in code. -/
theorem code_of_step_code {s : LexState} {a : UInt8} {next : Option UInt8}
    (h : LexState.step s a next = .code) : s = .code := by
  by_cases hs : s = .code
  · exact hs
  · rcases LexState.step_of_ne_code hs a next with ⟨t, pair, ht⟩
    rw [ht] at h
    cases h

/-- What begins a line comment. -/
theorem dashes_of_comment {s : LexState} {a : UInt8} {next : Option UInt8}
    (h : LexState.step s a next = .comment) :
    s = .code ∧ a = byte '-' ∧ next = some (byte '-') := by
  rcases LexState.code_of_step_comment h with rfl
  simp only [LexState.step] at h
  split at h
  · rename_i hdash
    rw [Bool.and_eq_true, Option.any_eq_true] at hdash
    rcases hdash with ⟨ha, b, hb, hdash⟩
    refine ⟨rfl, eq_of_beq ha, ?_⟩
    rw [hb, eq_of_beq hdash]
    rfl
  · split at h
    · cases h
    · split at h <;> cases h

/-- A line with its terminator, and what follows it. Only the last line has
    no line feed. -/
structure Ended (line rest : List UInt8) : Prop where
  feed : byte '\n' ∉ line.dropLast
  last : rest = [] ∨ line.getLast? = some (byte '\n')

theorem Ended.tail {a b : UInt8} {more rest : List UInt8} (h : Ended (a :: b :: more) rest) :
    a ≠ byte '\n' ∧ Ended (b :: more) rest := by
  rcases h with ⟨hfeed, hlast⟩
  rw [List.dropLast_cons_cons, List.mem_cons, not_or] at hfeed
  rw [List.getLast?_cons_cons] at hlast
  exact ⟨fun h => hfeed.1 h.symm, hfeed.2, hlast⟩

theorem Ended.behind {a : UInt8} {more rest : List UInt8} (h : Ended (a :: more) rest)
    (ha : a ≠ byte '\n') : Ended more rest := by
  cases more with
  | cons b tail => exact h.tail.2
  | nil =>
      refine ⟨List.not_mem_nil, Or.inl ?_⟩
      rcases h.last with hrest | hlast
      · exact hrest
      · rw [List.getLast?_singleton, Option.some.injEq] at hlast
        exact absurd hlast ha

theorem read_lineComment_cons (a : UInt8) (rest : List UInt8) :
    read lineComment (a :: rest) = (lineComment, a) :: read (single lineComment a) rest := by
  cases rest <;> rfl

/-- A line comment ends with its line. -/
theorem read_lineComment {line rest : List UInt8} (h : Ended line rest) :
    read lineComment (line ++ rest) = line.map (fun a => (lineComment, a)) ++ read code rest := by
  induction line with
  | nil =>
      rcases h.last with rfl | hlast
      · rfl
      · cases hlast
  | cons a more ih =>
      rw [List.cons_append, read_lineComment_cons]
      cases more with
      | nil =>
          rcases h.last with rfl | hlast
          · rfl
          · rw [List.getLast?_singleton, Option.some.injEq] at hlast
            rw [hlast]
            rfl
      | cons b tail =>
          have hsame : single lineComment a = lineComment := if_neg h.tail.1
          rw [hsame, ih h.tail.2]
          rfl

theorem inert_feed : LexState.Inert (byte '\n') := by
  have hall : LexState.tested.all (fun d => !(byte '\n' == byte d)) = true := by decide
  intro d hd
  have hfails := List.all_eq_true.mp hall d hd
  rwa [Bool.not_eq_true'] at hfails

/-- The last byte of a line. It sees nothing after it when it is lexed, and in
    the whole text nothing that could matter. -/
theorem read_last {s : LexState} (hs : s.Real) {a : UInt8} {rest : List UInt8}
    (h : Ended [a] rest) :
    read (ofState s) (a :: rest) = (ofState s, a) :: read (ofState (s.walk false [a]).2) rest ∧
      List.Forall₂ Shows [(ofState s, a)] (s.walk false [a]).1 := by
  rw [LexState.walk_cons]
  cases rest with
  | nil =>
      cases hstep : LexState.step s a ([] : List UInt8).head? with
      | comment =>
          cases (dashes_of_comment hstep).2.2
      | code =>
          rcases code_of_step_code hstep with rfl
          exact ⟨rfl, List.Forall₂.cons (shows_code a) List.Forall₂.nil⟩
      | hide t pair => exact ⟨rfl, List.Forall₂.cons (shows_of_hide hstep).1 List.Forall₂.nil⟩
  | cons b more =>
      -- More text follows, so this is a line feed.
      have ha : a = byte '\n' := by simpa using h.last
      have hinert : LexState.Inert a := ha ▸ inert_feed
      rw [read_step hs, LexState.step_inert hs hinert, LexState.step_inert hs hinert]
      by_cases hcode : s = .code
      · rw [if_pos hcode, hcode]
        exact ⟨rfl, List.Forall₂.cons (shows_code a) List.Forall₂.nil⟩
      · have hstep := LexState.step_inert hs hinert none
        rw [if_neg hcode] at hstep ⊢
        exact ⟨rfl, List.Forall₂.cons (shows_of_hide hstep).1 List.Forall₂.nil⟩

/-- A line is read as the lexer reads it. -/
theorem read_line {s : LexState} (hs : s.Real) {line rest : List UInt8} (h : Ended line rest) :
    ∃ front, read (ofState s) (line ++ rest) = front ++ read (ofState (s.walk false line).2) rest ∧
      List.Forall₂ Shows front (s.walk false line).1 := by
  -- Two bytes may be read at once, so the induction goes back two bytes.
  induction line using List.twoStepInduction generalizing s with
  | nil => exact ⟨[], rfl, List.Forall₂.nil⟩
  | singleton a => exact ⟨[(ofState s, a)], read_last hs h⟩
  | cons_cons a b more ihmore ihtail =>
      -- If the second byte is the last one of the line, nothing is left to be read.
      have hmore : ∀ t : LexState, t.Real → ∃ front,
          read (ofState t) (more ++ rest) = front ++ read (ofState (t.walk false more).2) rest ∧
            List.Forall₂ Shows front (t.walk false more).1 := by
        intro t ht
        cases more with
        | nil => exact ⟨[], rfl, List.Forall₂.nil⟩
        | cons d tail => exact ihmore ht h.tail.2.tail.2
      have hnext : (b :: more).head? = some b := rfl
      rw [LexState.walk_cons, List.cons_append, List.cons_append, read_step hs, hnext]
      cases hstep : LexState.step s a (some b) with
      | comment =>
          rcases dashes_of_comment hstep with ⟨rfl, rfl, hb⟩
          have hdash := shows_special (by decide : '-' ∈ LexState.special)
          rw [Option.some.injEq] at hb
          subst hb
          -- All that is left of the line is hidden, and the comment ends with it.
          refine ⟨(code, byte '-') :: (code, byte '-') :: more.map fun d => (lineComment, d), ?_,
            List.Forall₂.cons hdash (List.Forall₂.cons hdash ?_)⟩
          · rw [read_lineComment (h.tail.2.behind (by decide))]
            rfl
          · rw [List.forall₂_map_left_iff, List.forall₂_map_right_iff, List.forall₂_same]
            exact fun d _ => shows_of_ne_code (by simp) d
      | code =>
          rcases code_of_step_code hstep with rfl
          rcases ihtail b hs h.tail.2 with ⟨front, hread, hshows⟩
          refine ⟨(code, a) :: front, ?_, List.Forall₂.cons (shows_code a) hshows⟩
          exact congrArg _ hread
      | hide t pair =>
          have ht := LexState.real_of_step_hide hs hstep
          rcases shows_of_hide hstep with ⟨ha, hb⟩
          cases pair with
          | false =>
              rcases ihtail b ht h.tail.2 with ⟨front, hread, hshows⟩
              exact ⟨(ofState s, a) :: front, congrArg _ hread, List.Forall₂.cons ha hshows⟩
          | true =>
              rcases hmore t ht with ⟨front, hread, hshows⟩
              simp only [LexState.walk_skip, hread]
              exact ⟨(ofState s, a) :: (ofState s, b) :: front, rfl,
                List.Forall₂.cons ha (List.Forall₂.cons (hb rfl b rfl) hshows)⟩

/-- A judged character is met in code as often on both sides. -/
theorem count_of_shows {front : List (Region × UInt8)} {seen : List (Option UInt8)}
    (h : List.Forall₂ Shows front seen) {c : Char} (hc : c ∈ judged) :
    front.count (code, byte c) = seen.countP fun u => u.any (· == byte c) := by
  induction h with
  | nil => rfl
  | @cons entry u front seen hentry hrest ih =>
      have hmeets : (entry == (code, byte c)) = u.any (· == byte c) := by
        rw [Bool.eq_iff_iff, beq_iff_eq, hentry c hc]
        cases u <;> simp
      rw [List.count_cons, List.countP_cons, ih, hmeets]

end Region

namespace LexState

/-- A text that passes no test leaves the state as it is. -/
theorem walk_inert {s : LexState} (hs : s.Real) (skip : Bool) {text : List Char}
    (h : ∀ c ∈ text, Inert c) :
    ∃ seen, walk s skip text = (seen, s) ∧ ∀ u ∈ seen, ∀ c ∈ u, c ∈ text := by
  induction text generalizing skip with
  | nil => exact ⟨[], rfl, by simp⟩
  | cons c rest ih =>
      rcases ih false fun d hd => h d (List.mem_cons_of_mem c hd) with ⟨seen, hwalk, hseen⟩
      have hlater : ∀ u ∈ seen, ∀ d ∈ u, d ∈ c :: rest :=
        fun u hu d hd => List.mem_cons_of_mem c (hseen u hu d hd)
      cases skip with
      | true =>
          refine ⟨none :: seen, by rw [walk_skip, hwalk], ?_⟩
          simpa using hlater
      | false =>
          rw [walk_cons, step_inert hs (h c List.mem_cons_self)]
          by_cases hcode : s = code
          · refine ⟨some c :: seen, by simp only [if_pos hcode, hwalk], ?_⟩
            simpa using hlater
          · refine ⟨none :: seen, by simp only [if_neg hcode, hwalk], ?_⟩
            simpa using hlater

/-- What passes no test changes nothing at the end of a line. It may be taken
    along by the last character, or be hidden by a line comment. -/
theorem walk_ended {s : LexState} (hs : s.Real) (content : List Char) {text : List Char}
    (h : ∀ c ∈ text, Inert c) :
    ∃ seen, walk s false (content ++ text) =
        ((walk s false content).1 ++ seen, (walk s false content).2) ∧
      ∀ u ∈ seen, ∀ c ∈ u, c ∈ text := by
  have hcut : CutAt content text := by
    refine Or.inr ?_
    cases text with
    | nil => rfl
    | cons c rest =>
        rw [List.head?_cons, Option.all_some, plain, Bool.not_eq_true', List.contains_eq_mem,
          decide_eq_false_iff_not]
        intro hc
        have hfails := h c List.mem_cons_self c (List.mem_cons_of_mem '\\' hc)
        rw [unit_char, beq_self_eq_true] at hfails
        cases hfails
  have hwhole := walk_append hs false hcut
  have halone := walk_append hs false (Or.inr rfl : CutAt content [])
  rw [List.append_nil] at halone
  cases hreach : reach s false content with
  | none =>
      rw [hreach] at hwhole halone
      have hlast : (walk s false content).2 = code := by rw [halone]
      exact ⟨text.map fun _ => none, by rw [hwhole, hlast], by simp⟩
  | some p =>
      rcases p with ⟨t, cut⟩
      rw [hreach] at hwhole halone
      have hlast : (walk s false content).2 = t := by rw [halone]; rfl
      have ht : t.Real := hlast ▸ real_walk hs false content
      rcases walk_inert ht cut h with ⟨seen, hwalk, hseen⟩
      simp only [hwalk] at hwhole
      exact ⟨seen, by rw [hwhole, hlast], hseen⟩

/-- A terminator passes no test. -/
theorem inert_of_ending {ending : Terminator} {c : Char} (hc : c ∈ ending.chars) : Inert c := by
  have hall : ending.chars.all (fun c => tested.all fun d => !(c == d)) = true := by
    cases ending <;> decide
  intro d hd
  have hfails := List.all_eq_true.mp (List.all_eq_true.mp hall c hc) d hd
  rwa [Bool.not_eq_true'] at hfails

theorem not_judged_of_ending {ending : Terminator} {c : Char} (hc : c ∈ ending.chars) :
    c ∉ Region.judged := by
  have hall : ending.chars.all (fun c => !Region.judged.contains c) = true := by
    cases ending <;> decide
  intro hjudged
  have hfails := List.all_eq_true.mp hall c hc
  rw [List.contains_iff_mem.mpr hjudged] at hfails
  cases hfails

/-- A terminator has no effect on its line. -/
theorem advance_chars {s : LexState} (hs : s.Real) (line : Line) :
    s.advance line.chars = s.advance line.content := by
  have hinert : ∀ c ∈ line.ending.chars, Inert c := fun c => inert_of_ending
  rcases walk_ended hs line.content hinert with ⟨seen, hwalk, hseen⟩
  have hnone : ∀ d ∈ Region.judged, seen.countP (fun u => u.any (· == d)) = 0 := by
    intro d hd
    rw [List.countP_eq_zero]
    intro u hu hany
    rw [Option.any_eq_true] at hany
    rcases hany with ⟨c, hc, hcd⟩
    exact not_judged_of_ending (hseen u hu c hc) (eq_of_beq hcd ▸ hd)
  simp only [advance, Line.chars, hwalk, List.countP_append, unit_char, hnone ';' (by decide),
    hnone '(' (by decide), hnone ')' (by decide), Nat.add_zero]

theorem real_afterLines {s : LexState} (hs : s.Real) (lines : List (List Char)) :
    (afterLines s lines).Real := by
  induction lines generalizing s with
  | nil => exact hs
  | cons line rest ih => exact ih (real_advance hs line)

theorem afterLines_encode {s : LexState} (hs : s.Real) (lines : List (List Char)) :
    afterLines s (lines.map Utf8.encode) = afterLines s lines := by
  induction lines generalizing s with
  | nil => rfl
  | cons line rest ih =>
      have hline := advance_encode hs line
      simp only [afterLines, List.map_cons, List.foldl_cons, hline] at ih ⊢
      exact ih (real_advance hs line)

end LexState

theorem WellSplit.drop {lines : List Line} (h : WellSplit lines) (k : Nat) :
    WellSplit (lines.drop k) := by
  induction k generalizing lines with
  | zero => exact h
  | succ k ih =>
      cases lines with
      | nil => exact h
      | cons line rest => exact ih h.2.2

/-- No line is empty when its terminator is counted in. -/
theorem WellSplit.size_pos {line : Line} {rest : List Line} (h : WellSplit (line :: rest)) :
    0 < line.size := by
  have hchars : line.chars ≠ [] := by
    intro hnil
    rcases List.append_eq_nil_iff.mp hnil with ⟨hcontent, hending⟩
    refine (h.2.1 ?_).1 hcontent
    cases hend : line.ending with
    | missing => rfl
    | lf | crlf =>
        rw [hend] at hending
        cases hending
  rcases List.exists_cons_of_ne_nil hchars with ⟨c, more, hmore⟩
  rw [Line.size, hmore, Utf8.size_cons]
  exact Nat.add_pos_left c.utf8Size_pos _

namespace Region

open Utf8

theorem ended_of_wellSplit {line : Line} {rest : List Line} (h : WellSplit (line :: rest)) :
    Ended (encode line.chars) (encode (joinLines rest)) := by
  rcases h with ⟨hended, hmissing, -⟩
  have hfeed : byte '\n' ∉ encode line.content :=
    fun hn => hended.noFeed ((byte_mem_encode (by decide) line.content).mp hn)
  have hchars : encode line.chars = encode line.content ++ encode line.ending.chars :=
    List.flatMap_append
  rw [hchars]
  cases hending : line.ending with
  | lf =>
      refine ⟨?_, Or.inr List.getLast?_concat⟩
      rwa [show encode Terminator.lf.chars = [byte '\n'] from rfl, List.dropLast_concat]
  | crlf =>
      have hcrlf : encode Terminator.crlf.chars = [byte '\r'] ++ [byte '\n'] := rfl
      rw [hcrlf, ← List.append_assoc]
      refine ⟨?_, Or.inr List.getLast?_concat⟩
      rw [List.dropLast_concat, List.mem_append, not_or]
      exact ⟨hfeed, by decide⟩
  | missing =>
      rw [show encode Terminator.missing.chars = [] from rfl, List.append_nil]
      refine ⟨fun hn => hfeed (List.mem_of_mem_dropLast hn), Or.inl ?_⟩
      rw [(hmissing hending).2]
      rfl

/-- The whole text goes on after a line in the state that the line leads to,
    and shows what the line is judged by. -/
theorem read_chars {s : LexState} (hs : s.Real) {line : Line} {rest : List Line}
    (h : WellSplit (line :: rest)) :
    ∃ front, read (ofState s) (encode (joinLines (line :: rest))) =
        front ++ read (ofState (s.advance line.content).last) (encode (joinLines rest)) ∧
      front.length = line.size ∧
      (s.advance line.content).terminated = decide (0 < front.count (code, byte ';')) ∧
      (s.advance line.content).depth =
        wrap32 ((front.count (code, byte '(') : Int) - front.count (code, byte ')')) := by
  rcases read_line hs (ended_of_wellSplit h) with ⟨front, hread, hshows⟩
  have hsame : s.advance (encode line.chars) = s.advance line.content := by
    rw [LexState.advance_encode hs, LexState.advance_chars hs]
  have htext : encode (joinLines (line :: rest)) = encode line.chars ++ encode (joinLines rest) :=
    List.flatMap_append
  refine ⟨front, ?_, ?_, ?_, ?_⟩
  · rw [htext, hread, ← hsame]
    rfl
  · rw [hshows.length_eq, LexState.length_walk, length_encode]
    rfl
  · rw [← hsame, count_of_shows hshows (by decide)]
    rfl
  · rw [← hsame, count_of_shows hshows (by decide), count_of_shows hshows (by decide)]
    rfl

/-- The bytes behind some lines are those of the lines that are left. -/
theorem drop_encode (lines : List Line) (k : Nat) :
    (encode (joinLines lines)).drop (size (joinLines (lines.take k))) =
      encode (joinLines (lines.drop k)) := by
  have hjoin : joinLines lines = joinLines (lines.take k) ++ joinLines (lines.drop k) := by
    rw [joinLines, joinLines, joinLines, ← List.flatMap_append, List.take_append_drop]
  have hencode : encode (joinLines lines) =
      encode (joinLines (lines.take k)) ++ encode (joinLines (lines.drop k)) := by
    rw [hjoin]
    exact List.flatMap_append
  rw [hencode, ← length_encode, List.drop_left]

/-- The rest of a text is read from the state before it. -/
theorem drop_read {s : LexState} (hs : s.Real) {lines : List Line} (h : WellSplit lines) (k : Nat) :
    (read (ofState s) (encode (joinLines lines))).drop (size (joinLines (lines.take k))) =
      read (ofState (LexState.afterLines s ((lines.take k).map Line.content)))
        (encode (joinLines (lines.drop k))) := by
  induction k generalizing s lines with
  | zero => rfl
  | succ k ih =>
      cases lines with
      | nil => rfl
      | cons line rest =>
          rcases read_chars hs h with ⟨front, hread, hlength, -⟩
          have hsize : size (joinLines ((line :: rest).take (k + 1))) =
              front.length + size (joinLines (rest.take k)) := by
            rw [hlength, List.take_succ_cons, joinLines, List.flatMap_cons, size_append]
            rfl
          rw [hread, hsize, List.drop_length_add_append, ih (LexState.real_advance hs _) h.2.2]
          rfl

end Region

namespace Script

open LexState Region

/-- Reading line by line is reading the text as a whole. The state carried to
    a line is the region that the line begins in, and the whole text is read on
    from there; the line is judged by what the whole text shows on it in code.
    Its parentheses are counted in 32 bits, so the count is exact on a line of
    less than `2 ^ 31` bytes. It makes no difference whether the lines are read
    as characters or as bytes. -/
theorem lines_read_as_text (script : Script) {k : Nat} {line : Line}
    (h : script.lines[k]? = some line) :
    let whole := read .code script.bytes
    let onLine := (whole.drop (script.offsetOf k)).take line.size
    let met (c : Char) : Nat := onLine.count (.code, Utf8.byte c)
    let before := (script.lines.take k).map Line.content
    let state := afterLines code before
    let effect := state.advance line.content
    state.Real ∧ effect.last.Real ∧
      whole.drop (script.offsetOf k) =
        read (ofState state) (script.bytes.drop (script.offsetOf k)) ∧
      (whole[script.offsetOf k]?).map Prod.fst = some (ofState state) ∧
      (effect.terminated = true ↔ 0 < met ';') ∧
      effect.depth = wrap32 ((met '(' : Int) - met ')') ∧
      (line.size < 2 ^ 31 → effect.depth = (met '(' : Int) - met ')') ∧
      afterLines code (before.map Utf8.encode) = state ∧
      state.advance (Utf8.encode line.content) = effect := by
  intro whole onLine met before state effect
  have hsplit : WellSplit script.lines := wellSplit_splitLines script.text
  have hreal : state.Real := real_afterLines real_code before
  rcases List.getElem?_eq_some_iff.mp h with ⟨hk, hline⟩
  have hdrop : script.lines.drop k = line :: script.lines.drop (k + 1) := by
    rw [List.drop_eq_getElem_cons hk, hline]
  have hrest : WellSplit (line :: script.lines.drop (k + 1)) := hdrop ▸ hsplit.drop k
  have htext : script.bytes = Utf8.encode (joinLines script.lines) := by
    rw [Script.bytes, Script.lines, joinLines_splitLines]
  have hfrom : whole.drop (script.offsetOf k) =
      read (ofState state) (Utf8.encode (joinLines (line :: script.lines.drop (k + 1)))) := by
    rw [← hdrop, ← drop_read real_code hsplit k, ← htext]
    rfl
  have hbytes : script.bytes.drop (script.offsetOf k) =
      Utf8.encode (joinLines (line :: script.lines.drop (k + 1))) := by
    rw [htext, ← hdrop]
    exact drop_encode script.lines k
  rcases read_chars hreal hrest with ⟨front, hread, hlength, hterminated, hdepth⟩
  have honLine : onLine = front := by
    rw [show onLine = (whole.drop (script.offsetOf k)).take line.size from rfl, hfrom, hread,
      ← hlength, List.take_left]
  have hbegins : Utf8.encode (joinLines (line :: script.lines.drop (k + 1))) ≠ [] := by
    rw [← List.length_pos_iff, Utf8.length_encode, joinLines, List.flatMap_cons, Utf8.size_append]
    exact Nat.add_pos_left hrest.size_pos _
  have hcount : effect.depth = wrap32 ((met '(' : Int) - met ')') := by
    rw [hdepth, ← honLine]
  refine ⟨hreal, real_advance hreal _, ?_, ?_, ?_, hcount, ?_, ?_, ?_⟩
  · rw [hfrom, hbytes]
  · rcases List.exists_cons_of_ne_nil hbegins with ⟨a, more, hcons⟩
    rw [← List.head?_drop, hfrom, head?_read, hcons]
    rfl
  · rw [hterminated, decide_eq_true_iff, ← honLine]
  · intro hshort
    have hmet : ∀ c, met c ≤ line.size := by
      intro c
      rw [← hlength, ← honLine]
      exact List.count_le_length
    have hopen := hmet '('
    have hclose := hmet ')'
    rw [hcount]
    exact wrap32_eq_self (by omega) (by omega)
  · exact afterLines_encode real_code before
  · exact advance_encode hreal line.content

/-- A literal that goes on after a backslash at the end of a line. -/
theorem lines_read_as_text_escaped :
    let script : Script := ⟨"SELECT 'it\\\r\n;' (; -- ('\n(;".toList⟩
    let line : Line := ⟨";' (; -- ('".toList, .lf⟩
    let state := LexState.quoted '\x27'
    script.lines[1]? = some line ∧ afterLines code ["SELECT 'it\\".toList] = state ∧
      ((read .code script.bytes)[13]?).map Prod.fst = some (.literal '\x27') ∧
      (state.advance line.content).terminated = true ∧
      (state.advance line.content).depth = 1 := by
  intro script line state
  have hline : script.lines[1]? = some line := by decide
  rcases lines_read_as_text script hline with ⟨-, -, -, hregion, hterminated, hdepth, -⟩
  exact ⟨hline, by decide, hregion, hterminated.mpr (by decide), hdepth.trans (by decide)⟩

end Script

end Rerun
