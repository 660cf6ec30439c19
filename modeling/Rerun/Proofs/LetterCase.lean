import Rerun.Proofs.Lines
import Rerun.Proofs.Phrases
import Rerun.Proofs.Lexing
import Rerun.Statement

/-!
# Reading in Either Case

The case of an ASCII letter decides nothing when a line is read. Whatever a
recogniser finds in a text it finds in the same place of the text in lower case,
and what it returns is the same, in lower case.

There are three reasons for this, and each recogniser rests on them. A keyword is
compared in upper case, which is the upper case of the lower case. Every other
character that is tested for is no letter, and lower case neither makes nor takes
away such a character (`toLower_eq_iff`). The classes of blanks and of word
characters hold a letter in both cases or in neither. The lexical rules are no
exception as long as a literal is open under a quote: under a letter they would
tell its cases apart, so their lemmas ask for a `Real` state.

## Main definitions

* `Line.lower`, `Script.lower`: A line and a script in lower case.
* `TableName.Spot.Real`: A spot that a name can be read at.
* `TableName.loose?`: The name on the line after a bare head.

## Theorems

* `Text.toLower_eq_iff`: Lower case keeps apart letters and other characters.
* `Text.takeWhile_lower`, `Text.dropWhile_lower`: Cutting a text by a class.
* `splitLines_lower`, `Script.body_lower`: The lines of a script.
* `LexState.walk_lower`, `LexState.advance_lower`: The same characters are code.
* `Keyword.phrase?_lower`: Keywords are read in either case.
* `Guard.find?_lower`, `Guard.leading?_lower`: Guards stand in the same places.
* `Guard.lower_mend_lower`: Mending, up to case.
* `TableName.walk_lower`: A name ends in the same place.
* `TableName.ofCreate?_lower`, `TableName.ofDrop?_lower`,
  `TableName.ofContinuation?_lower`: The names that are found.
* `Statement.kindOf_lower`, `Statement.opens_lower`: What a line says about the
  statements.
-/

namespace Rerun

namespace Text

theorem toNat_toLower (c : Char) :
    c.toLower.toNat = if 65 ≤ c.toNat ∧ c.toNat ≤ 90 then c.toNat + 32 else c.toNat := by
  by_cases h : 65 ≤ c.toNat ∧ c.toNat ≤ 90
  · have hlower : c.toLower = ⟨c.val + 32, _⟩ := dif_pos h
    have hbound : c.val.toNat ≤ 90 := h.2
    rw [if_pos h, hlower]
    change (c.val + 32).toNat = c.val.toNat + 32
    rw [UInt32.toNat_add]
    change (c.val.toNat + 32) % 2 ^ 32 = c.val.toNat + 32
    omega
  · rw [if_neg h]
    exact congrArg Char.toNat (dif_neg h)

theorem toNat_toUpper (c : Char) :
    c.toUpper.toNat = if 97 ≤ c.toNat ∧ c.toNat ≤ 122 then c.toNat - 32 else c.toNat := by
  by_cases h : 97 ≤ c.toNat ∧ c.toNat ≤ 122
  · have hupper : c.toUpper = ⟨c.val + ('A'.val - 'a'.val), _⟩ := dif_pos h
    have hbounds : 97 ≤ c.val.toNat ∧ c.val.toNat ≤ 122 := h
    rw [if_pos h, hupper]
    change (c.val + ('A'.val - 'a'.val)).toNat = c.val.toNat - 32
    rw [UInt32.toNat_add]
    change (c.val.toNat + 4294967264) % 2 ^ 32 = c.val.toNat - 32
    omega
  · rw [if_neg h]
    exact congrArg Char.toNat (dif_neg h)

/-- A character in lower case is in lower case. -/
@[simp]
theorem toLower_toLower (c : Char) : c.toLower.toLower = c.toLower := by
  rw [← Char.toNat_inj, toNat_toLower c.toLower, toNat_toLower c]
  split_ifs <;> omega

/-- The upper case of a character is that of its lower case. -/
@[simp]
theorem toUpper_toLower (c : Char) : c.toLower.toUpper = c.toUpper := by
  rw [← Char.toNat_inj, toNat_toUpper c.toLower, toNat_toUpper c, toNat_toLower c]
  split_ifs <;> omega

/-- Lower case makes no other characters out of letters than letters. -/
theorem toLower_eq_iff {c d : Char} (hd : d.isAlpha = false) : c.toLower = d ↔ c = d := by
  change (d.isUpper || d.isLower) = false at hd
  rw [Bool.or_eq_false_iff, Bool.eq_false_iff, Bool.eq_false_iff, Ne, Ne, isUpper_iff,
    isLower_iff] at hd
  -- An upper-case letter becomes a lower-case one, and `d` is neither.
  rw [← Char.toNat_inj, ← Char.toNat_inj, toNat_toLower]
  split <;> omega

@[simp]
theorem utf8Size_toLower (c : Char) : c.toLower.utf8Size = c.utf8Size := by
  by_cases h : 65 ≤ c.toNat ∧ c.toNat ≤ 90
  · have hascii : ∀ d : Char, d.toNat ≤ 127 → d.utf8Size = 1 := fun d hd => if_pos hd
    have hlower := toNat_toLower c
    rw [if_pos h] at hlower
    rw [hascii c (by omega), hascii c.toLower (by omega)]
  · exact congrArg Char.utf8Size (dif_neg h)

@[simp]
theorem isBlank_toLower (c : Char) : isBlank c.toLower = isBlank c := by
  rw [Bool.eq_iff_iff]
  simp only [isBlank, Bool.or_eq_true, Bool.and_eq_true, decide_eq_true_eq, beq_iff_eq,
    toNat_toLower]
  split <;> omega

@[simp]
theorem isGap_toLower (c : Char) : isGap c.toLower = isGap c := by
  rw [Bool.eq_iff_iff]
  simp only [isGap, Bool.or_eq_true, Bool.and_eq_true, decide_eq_true_eq, beq_iff_eq,
    toNat_toLower]
  split <;> omega

@[simp]
theorem isWord_toLower (c : Char) : isWord c.toLower = isWord c := by
  rw [Bool.eq_iff_iff, isWord_iff, isWord_iff, toNat_toLower]
  split <;> omega

theorem beq_toLower {d : Char} (hd : d.isAlpha = false) (c : Char) :
    (c.toLower == d) = (c == d) := by
  rw [Bool.eq_iff_iff, beq_iff_eq, beq_iff_eq, toLower_eq_iff hd]

theorem any_toLower {d : Char} (hd : d.isAlpha = false) (u : Option Char) :
    (u.map Char.toLower).any (· == d) = u.any (· == d) := by
  cases u with
  | none => rfl
  | some c => exact beq_toLower hd c

theorem isAlpha_eq_false {l : List Char} (h : l.all (fun d => !d.isAlpha) = true) {d : Char}
    (hd : d ∈ l) : d.isAlpha = false := by
  rw [← Bool.not_eq_true']
  exact List.all_eq_true.mp h d hd

/-- A list of characters that are no letters has a letter in neither case. -/
theorem contains_toLower {l : List Char} (h : l.all (fun d => !d.isAlpha) = true) (c : Char) :
    l.contains c.toLower = l.contains c := by
  rw [Bool.eq_iff_iff, List.contains_iff_mem, List.contains_iff_mem]
  constructor
  · intro hc
    have hsame : c = c.toLower := (toLower_eq_iff (isAlpha_eq_false h hc)).mp rfl
    rwa [hsame]
  · intro hc
    rwa [(toLower_eq_iff (isAlpha_eq_false h hc)).mpr rfl]

@[simp]
theorem lower_cons (c : Char) (text : List Char) :
    lower (c :: text) = c.toLower :: lower text := rfl

@[simp]
theorem lower_append (a b : List Char) : lower (a ++ b) = lower a ++ lower b :=
  List.map_append

@[simp]
theorem length_lower (text : List Char) : (lower text).length = text.length :=
  List.length_map _

@[simp]
theorem lower_lower (text : List Char) : lower (lower text) = lower text := by
  simp only [lower, List.map_map, Function.comp_def, toLower_toLower]

@[simp]
theorem map_lower_lower (text : Option (List Char)) :
    (text.map lower).map lower = text.map lower := by
  simp only [Option.map_map, Function.comp_def, lower_lower]

@[simp]
theorem take_lower (n : Nat) (text : List Char) : (lower text).take n = lower (text.take n) :=
  List.map_take.symm

@[simp]
theorem drop_lower (n : Nat) (text : List Char) : (lower text).drop n = lower (text.drop n) :=
  List.map_drop.symm

@[simp]
theorem isEmpty_lower (text : List Char) : (lower text).isEmpty = text.isEmpty := by
  cases text <;> rfl

@[simp]
theorem size_lower (text : List Char) : Utf8.size (lower text) = Utf8.size text := by
  induction text with
  | nil => rfl
  | cons c rest ih => rw [lower_cons, Utf8.size_cons, Utf8.size_cons, utf8Size_toLower, ih]

section Class

variable {p : Char → Bool} (hp : ∀ c : Char, p c.toLower = p c)

include hp

theorem takeWhile_lower (text : List Char) :
    (lower text).takeWhile p = lower (text.takeWhile p) := by
  rw [lower, List.takeWhile_map, show p ∘ Char.toLower = p from funext hp]
  rfl

theorem dropWhile_lower (text : List Char) :
    (lower text).dropWhile p = lower (text.dropWhile p) := by
  rw [lower, List.dropWhile_map, show p ∘ Char.toLower = p from funext hp]
  rfl

theorem stripBoth_lower (text : List Char) :
    stripBoth p (lower text) = lower (stripBoth p text) := by
  have hreverse : ∀ text : List Char, (lower text).reverse = lower text.reverse := fun text =>
    List.map_reverse.symm
  rw [stripBoth, dropWhile_lower hp, hreverse, dropWhile_lower hp, hreverse, stripBoth]

theorem all_lower (text : List Char) : (lower text).all p = text.all p := by
  rw [lower, List.all_map, show p ∘ Char.toLower = p from funext hp]

end Class

/-- Blanks have no case. -/
theorem lower_of_blank {text : List Char} (h : ∀ c ∈ text, isBlank c = true) :
    lower text = text := by
  have hblank : ∀ c ∈ text, c.toLower = id c := by
    intro c hc
    refine (toLower_eq_iff ?_).mpr rfl
    have hword := isWord_eq_false (h c hc)
    rw [isWord, Char.isAlphanum, Bool.or_eq_false_iff, Bool.or_eq_false_iff] at hword
    exact hword.1.1
  rw [lower, List.map_congr_left hblank, List.map_id]

@[simp]
theorem indentOf_lower (line : List Char) : indentOf (lower line) = indentOf line := by
  rw [indentOf, takeWhile_lower isBlank_toLower]
  exact lower_of_blank fun c => isBlank_of_mem_indentOf

@[simp]
theorem bodyOf_lower (line : List Char) : bodyOf (lower line) = lower (bodyOf line) :=
  dropWhile_lower isBlank_toLower line

theorem startsWith_lower {lead : List Char} (h : lead.all (fun d => !d.isAlpha) = true)
    (text : List Char) : startsWith lead (lower text) = startsWith lead text := by
  unfold startsWith
  induction lead generalizing text with
  | nil => rfl
  | cons d rest ih =>
      rw [List.all_cons, Bool.and_eq_true, Bool.not_eq_true'] at h
      cases text with
      | nil => rfl
      | cons c tail =>
          have hfirst : (d == c.toLower) = (d == c) := by
            rw [Bool.eq_iff_iff, beq_iff_eq, beq_iff_eq, eq_comm, toLower_eq_iff h.1, eq_comm]
          rw [lower_cons, List.isPrefixOf, List.isPrefixOf, hfirst, ih h.2]

theorem splitOn_lower {sep : Char} (hsep : sep.isAlpha = false) (text : List Char) :
    splitOn sep (lower text) = (splitOn sep text).map lower := by
  induction text with
  | nil => rfl
  | cons c rest ih =>
      rw [lower_cons, splitOn, splitOn, ih]
      cases splitOn sep rest with
      | nil => rfl
      | cons piece pieces =>
          simp only [List.map_cons, toLower_eq_iff hsep]
          split <;> rfl

theorem intercalate_lower (pieces : List (List Char)) :
    ['.'].intercalate (pieces.map lower) = lower (['.'].intercalate pieces) := by
  match pieces with
  | [] => rfl
  | [piece] => rw [List.map_singleton, List.intercalate_singleton, List.intercalate_singleton]
  | piece :: next :: rest =>
      have ih := intercalate_lower (next :: rest)
      rw [List.map_cons] at ih
      rw [List.map_cons, List.map_cons, List.intercalate_cons_cons, List.intercalate_cons_cons, ih,
        lower_append, lower_append]
      rfl

end Text

/-- A line in lower case. -/
def Line.lower (line : Line) : Line :=
  ⟨Text.lower line.content, line.ending⟩

/-- A script in lower case. -/
def Script.lower (script : Script) : Script :=
  ⟨Text.lower script.text⟩

open Text Keyword LexState

@[simp]
theorem Line.content_lower (line : Line) : line.lower.content = Text.lower line.content := rfl

@[simp]
theorem Line.size_lower (line : Line) : line.lower.size = line.size := by
  rw [Line.size, Line.chars, Utf8.size_append, Line.content_lower, Text.size_lower,
    ← Utf8.size_append]
  rfl

theorem lower_joinLines (lines : List Line) :
    lower (joinLines lines) = joinLines (lines.map Line.lower) := by
  have hchars : ∀ line : Line, lower line.chars = line.lower.chars := by
    intro line
    rw [Line.chars, lower_append, Line.chars, Line.content_lower]
    cases hend : line.ending <;> rw [Line.lower, hend] <;> rfl
  induction lines with
  | nil => rfl
  | cons line rest ih =>
      rw [List.map_cons, joinLines, joinLines, List.flatMap_cons, List.flatMap_cons, lower_append,
        hchars]
      exact congrArg _ ih

/-- Lines are split in the same places in either case. -/
theorem splitLines_lower (text : List Char) :
    splitLines (lower text) = (splitLines text).map Line.lower := by
  have hfeed : ∀ {c : Char}, c ≠ '\n' → c.toLower ≠ '\n' := fun hc h =>
    hc ((toLower_eq_iff rfl).mp h)
  have hreturn : ∀ {c : Char} {rest : List Char},
      (∀ tail, c = '\r' → rest = '\n' :: tail → False) →
      c.toLower = '\r' → (lower rest).head? ≠ some '\n' := by
    intro c rest hcr hc hhead
    cases rest with
    | nil => cases hhead
    | cons d tail =>
        have hd : d = '\n' := (toLower_eq_iff rfl).mp (Option.some.inj hhead)
        exact hcr tail ((toLower_eq_iff rfl).mp hc) (by rw [hd])
  fun_induction splitLines text with
  | case1 => rfl
  | case2 rest ih =>
      rw [List.map_cons, ← ih]
      rfl
  | case3 rest ih =>
      rw [List.map_cons, ← ih]
      rfl
  | case4 c rest hc hcr h ih =>
      rw [lower_cons, splitLines_cons _ _ (hfeed hc) (hreturn hcr), ih, h]
      rfl
  | case5 c rest hc hcr line lines h ih =>
      rw [lower_cons, splitLines_cons _ _ (hfeed hc) (hreturn hcr), ih, h]
      rfl

namespace Script

variable (script : Script)

theorem lines_lower : script.lower.lines = script.lines.map Line.lower :=
  splitLines_lower script.text

theorem splitMark_lower (text : List Char) :
    splitMark (Text.lower text) = ((splitMark text).1, Text.lower (splitMark text).2) := by
  cases text with
  | nil => rfl
  | cons c rest =>
      have hmark : c.toLower = byteOrderMark ↔ c = byteOrderMark := toLower_eq_iff rfl
      rw [lower_cons, splitMark, splitMark]
      by_cases hc : c = byteOrderMark
      · rw [if_pos hc, if_pos (hmark.mpr hc), hc]
        rfl
      · rw [if_neg hc, if_neg fun h => hc (hmark.mp h)]
        rfl

/-- A byte order mark has no case. -/
theorem mark_lower : script.lower.mark = script.mark := by
  rw [mark, mark, lines_lower]
  cases script.lines with
  | nil => rfl
  | cons line rest => simp only [List.map_cons, Line.content_lower, splitMark_lower]

theorem body_lower : script.lower.body = script.body.map Line.lower := by
  rw [body, body, lines_lower]
  cases script.lines with
  | nil => rfl
  | cons line rest =>
      simp only [List.map_cons, Line.content_lower, splitMark_lower]
      rfl

end Script

namespace LexState

/-- Every state that a script can be in reads a character in either case. -/
theorem step_lower {s : LexState} (hs : s.Real) (c : Char) (next : Option Char) :
    step s c.toLower (next.map Char.toLower) = step s c next := by
  cases s with
  | code =>
      simp only [step, quotes, List.find?, TextUnit.unit, beq_toLower, any_toLower,
        Char.reduceIsAlpha]
  | blockComment => simp only [step, TextUnit.unit, beq_toLower, any_toLower, Char.reduceIsAlpha]
  | quoted q =>
      have hq : q.isAlpha = false := isAlpha_eq_false (by decide) hs
      simp only [step, TextUnit.unit, beq_toLower hq, any_toLower hq, beq_toLower,
        Char.reduceIsAlpha]

/-- The same characters of a line are code in either case. -/
theorem walk_lower {s : LexState} (hs : s.Real) (skip : Bool) (line : List Char) :
    walk s skip (lower line) =
      ((walk s skip line).1.map (Option.map Char.toLower), (walk s skip line).2) := by
  induction line generalizing s skip with
  | nil => rfl
  | cons c rest ih =>
      have hhead : (lower rest).head? = rest.head?.map Char.toLower := List.head?_map
      cases skip with
      | true =>
          rw [lower_cons, walk_skip, walk_skip, ih hs]
          rfl
      | false =>
          rw [lower_cons, walk_cons, walk_cons, hhead, step_lower hs]
          cases hstep : step s c rest.head? with
          | comment =>
              -- What is left of the line is hidden, whatever it says.
              simp only [lower, List.map_cons, List.map_map, Function.comp_def, Option.map_none]
          | code =>
              simp only [ih hs]
              rfl
          | hide next pair =>
              simp only [ih (real_of_step_hide hs hstep)]
              rfl

theorem real_walk {s : LexState} (hs : s.Real) (skip : Bool) (line : List Char) :
    (walk s skip line).2.Real := by
  induction line generalizing s skip with
  | nil => exact hs
  | cons c rest ih =>
      cases skip with
      | true =>
          rw [walk_skip]
          exact ih hs false
      | false =>
          rw [walk_cons]
          cases hstep : step s c rest.head? with
          | comment => exact hs
          | code => exact ih hs false
          | hide next pair => exact ih (real_of_step_hide hs hstep) pair

theorem real_advance {s : LexState} (hs : s.Real) (line : List Char) :
    (s.advance line).last.Real :=
  real_walk hs false line

theorem advance_lower {s : LexState} (hs : s.Real) (line : List Char) :
    s.advance (lower line) = s.advance line := by
  have hcount : ∀ d : Char, d.isAlpha = false → ∀ seen : List (Option Char),
      (seen.map (Option.map Char.toLower)).countP (fun u => u.any (· == d)) =
        seen.countP fun u => u.any (· == d) := by
    intro d hd seen
    rw [List.countP_map]
    exact List.countP_congr fun u _ => by rw [Function.comp_apply, any_toLower hd]
  simp only [advance, walk_lower hs, TextUnit.unit, hcount, Char.reduceIsAlpha]

end LexState

theorem codeOnly_lower (text : List Char) : codeOnly (lower text) = lower (codeOnly text) := by
  rw [codeOnly, walk_lower real_code, codeOnly, lower, List.map_map, List.map_map]
  refine List.map_congr_left fun c _ => ?_
  cases c <;> rfl

namespace Keyword

@[simp]
theorem word?_lower (w text : List Char) : word? w (lower text) = (word? w text).map lower := by
  induction w generalizing text with
  | nil => rw [word?, word?, Option.map_some]
  | cons u us ih =>
      cases text with
      | nil => rfl
      | cons c rest =>
          rw [lower_cons, word?, word?, toUpper_toLower, ih]
          split <;> rfl

@[simp]
theorem gap?_lower (text : List Char) : gap? (lower text) = (gap? text).map lower := by
  cases text with
  | nil => rfl
  | cons c rest =>
      rw [lower_cons, gap?, gap?, isGap_toLower, dropWhile_lower isGap_toLower]
      split <;> rfl

@[simp]
theorem phrase?_lower (ws : List (List Char)) (text : List Char) :
    phrase? ws (lower text) = (phrase? ws text).map lower := by
  fun_induction phrase? ws text with
  | case1 text => rw [phrase?, Option.map_some]
  | case2 w text => rw [phrase?, word?_lower]
  | case3 w ws text hws ih =>
      rw [phrase?, word?_lower]
      · cases word? w text with
        | none => rfl
        | some a =>
            simp only [Option.map_some, Option.bind_eq_bind, Option.bind_some, gap?_lower]
            cases gap? a with
            | none => rfl
            | some b => exact ih b
      · exact hws

@[simp]
theorem atBoundary_lower (text : List Char) : atBoundary (lower text) = atBoundary text := by
  cases text with
  | nil => rfl
  | cons c rest => rw [lower_cons, atBoundary, isWord_toLower, atBoundary]

@[simp]
theorem taken_lower (text rest : List Char) :
    taken (lower text) (lower rest) = lower (taken text rest) := by
  rw [taken, length_lower, length_lower, take_lower, taken]

end Keyword

namespace Guard

@[simp]
theorem token?_lower (text : List Char) :
    token? (lower text) = (token? text).map (Prod.map id lower) := by
  rw [token?, token?, phrase?_lower]
  cases phrase? words text with
  | none => rfl
  | some rest =>
      simp only [Option.map_some, Option.bind_eq_bind, Option.bind_some, word?_lower]
      cases word? ['S'] rest with
      | none =>
          simp only [Option.map_none, atBoundary_lower]
          split <;> rfl
      | some tail =>
          simp only [Option.map_some, atBoundary_lower]
          split <;> rfl

theorem search_lower (inWord : Bool) (pos : Nat) (text : List Char) :
    search inWord pos (lower text) = search inWord pos text := by
  induction text generalizing inWord pos with
  | nil => rfl
  | cons c rest ih =>
      rw [lower_cons, search, search, ← lower_cons, token?_lower, isWord_toLower, ih]
      cases inWord with
      | true => rfl
      | false =>
          cases token? (c :: rest) with
          | none => rfl
          | some found =>
              simp only [Bool.false_eq_true, if_false, Option.map_some, Prod.map, length_lower, id]

/-- A guard stands in the same place in either case. -/
@[simp]
theorem find?_lower (rest : List Char) : find? (lower rest) = find? rest := by
  have hparen : ∀ c : Char, (c.toLower != '(') = (c != '(') := by
    intro c
    rw [bne, bne, beq_toLower rfl]
  rw [find?, region, codeOnly_lower, takeWhile_lower hparen, search_lower, find?, region]

@[simp]
theorem leading?_lower (line : List Char) : leading? (lower line) = leading? line := by
  rw [leading?, leading?, bodyOf_lower, indentOf_lower, token?_lower]
  cases token? (bodyOf line) with
  | none => rfl
  | some found =>
      simp only [Option.map_some, Option.bind_eq_bind, Option.bind_some, Prod.map, length_lower, id]

/-- The clause that is written is in upper case, so that mending is the same
    in either case only up to case. -/
theorem lower_mend_lower (guard : Guard) (text : List Char) :
    lower (guard.mend (lower text)) = lower (guard.mend text) := by
  simp only [mend, lower_append, take_lower, drop_lower, lower_lower]

end Guard

namespace TableName

theorem isBare_toLower (c : Char) : isBare c.toLower = isBare c := by
  rw [isBare, isGap_toLower, contains_toLower (by decide), isBare]

/-- A spot that a name can be read at: no letter opens a quoted part. -/
def Spot.Real : Spot → Prop
  | quoted q => q.isAlpha = false
  | _ => True

/-- A walk through a name goes the same way in either case. -/
theorem walk_lower {spot : Spot} (hspot : spot.Real) (text : List Char) :
    walk spot (lower text) = (walk spot text).map lower := by
  induction text generalizing spot with
  | nil => cases spot <;> rfl
  | cons c rest ih =>
      have hdot : c.toLower = '.' ↔ c = '.' := toLower_eq_iff rfl
      have hpart : (walk .fresh (lower rest)).getD (lower (c :: rest)) =
          lower ((walk .fresh rest).getD (c :: rest)) := by
        rw [@ih .fresh trivial]
        cases walk .fresh rest <;> rfl
      cases spot with
      | fresh =>
          by_cases hc : c = '\x60' ∨ c = '\x22'
          · -- The quote is remembered, so it must not change on the way.
            have hsame : c.toLower = c := by rcases hc with rfl | rfl <;> rfl
            have halpha : c.isAlpha = false := by rcases hc with rfl | rfl <;> rfl
            rw [lower_cons, walk, walk, hsame, if_pos hc, if_pos hc]
            exact ih halpha
          · have hlower : ¬ (c.toLower = '\x60' ∨ c.toLower = '\x22') := by
              rwa [toLower_eq_iff rfl, toLower_eq_iff rfl]
            rw [lower_cons, walk, walk, if_neg hc, if_neg hlower, isBare_toLower, @ih .bare trivial]
            split <;> rfl
      | quoted q =>
          rw [lower_cons, walk, walk, @ih .closed trivial, ih hspot]
          simp only [toLower_eq_iff hspot]
          split <;> rfl
      | bare =>
          rw [lower_cons, walk, walk, isBare_toLower, @ih .bare trivial, ← lower_cons, hpart]
          simp only [hdot]
          split
          · rfl
          · split <;> rfl
      | closed =>
          rw [lower_cons, walk, walk, ← lower_cons, hpart]
          simp only [hdot]
          split <;> rfl

@[simp]
theorem raw?_lower (text : List Char) : raw? (lower text) = (raw? text).map lower := by
  rw [raw?, raw?, rest?, rest?, @walk_lower .fresh trivial]
  cases walk .fresh text with
  | none => rfl
  | some rest => exact congrArg some (taken_lower text rest)

@[simp]
theorem unquote_lower (name : List Char) : unquote (lower name) = lower (unquote name) := by
  have hstrip : stripBoth isQuoteMark ∘ lower = lower ∘ stripBoth isQuoteMark :=
    funext (stripBoth_lower (contains_toLower (by decide)))
  rw [unquote, splitOn_lower rfl, List.map_map, hstrip, unquote, ← List.map_map]
  exact intercalate_lower _

theorem isNoName_lower (name : List Char) : isNoName (lower name) = isNoName name := by
  have hupper : (lower name).map Char.toUpper = name.map Char.toUpper := by
    simp only [lower, List.map_map, Function.comp_def, toUpper_toLower]
  rw [isNoName, hupper, startsWith_lower (by decide), startsWith_lower (by decide), isNoName]

theorem afterClause?_lower {clause? : List Char → Option (List Char)}
    (hclause : ∀ text, clause? (lower text) = (clause? text).map lower) (text : List Char) :
    afterClause? clause? (lower text) = (afterClause? clause? text).map lower := by
  have hname : ((clause? (lower text)).bind raw?).or (raw? (lower text)) =
      (((clause? text).bind raw?).or (raw? text)).map lower := by
    rw [hclause, raw?_lower]
    cases clause? text with
    | none => rfl
    | some rest =>
        simp only [Option.map_some, Option.bind_some, raw?_lower]
        cases raw? rest <;> rfl
  rw [afterClause?, hname, afterClause?]
  cases ((clause? text).bind raw?).or (raw? text) with
  | none => rfl
  | some name =>
      simp only [Option.map_some, Option.bind_eq_bind, Option.bind_some, isNoName_lower,
        unquote_lower]
      split <;> rfl

theorem guardClause?_lower (text : List Char) :
    guardClause? (lower text) = (guardClause? text).map lower := by
  rw [guardClause?, guardClause?, phrase?_lower]
  cases phrase? Guard.words text with
  | none => rfl
  | some rest =>
      simp only [Option.map_some, Option.bind_eq_bind, Option.bind_some, word?_lower]
      cases word? ['S'] rest with
      | none => exact gap?_lower rest
      | some tail => exact gap?_lower tail

theorem existsClause?_lower (text : List Char) :
    existsClause? (lower text) = (existsClause? text).map lower := by
  rw [existsClause?, existsClause?, phrase?_lower]
  cases phrase? ["IF".toList, "EXISTS".toList] text with
  | none => rfl
  | some rest => exact gap?_lower rest

@[simp]
theorem ofCreate?_lower (body : List Char) :
    ofCreate? (lower body) = (ofCreate? body).map lower := by
  rw [ofCreate?, ofCreate?, phrase?_lower]
  cases phrase? ["CREATE".toList, "TABLE".toList] body with
  | none => rfl
  | some rest =>
      simp only [Option.map_some, Option.bind_eq_bind, Option.bind_some,
        dropWhile_lower isGap_toLower]
      exact afterClause?_lower guardClause?_lower _

@[simp]
theorem ofDrop?_lower (body : List Char) : ofDrop? (lower body) = (ofDrop? body).map lower := by
  rw [ofDrop?, ofDrop?, phrase?_lower]
  cases phrase? ["DROP".toList, "TABLE".toList] body with
  | none => rfl
  | some rest =>
      simp only [Option.map_some, Option.bind_eq_bind, Option.bind_some, gap?_lower]
      cases gap? rest with
      | none => rfl
      | some tail => exact afterClause?_lower existsClause?_lower tail

/-- A character of the name on the line after a bare head. -/
def isLoose (c : Char) : Bool :=
  !isBlank c && !(['(', ';', ','].contains c)

/-- The name at the front of a text, as the line after a bare head is read. -/
def loose? (text : List Char) : Option (List Char) :=
  let name := text.takeWhile isLoose
  if name.isEmpty || startsWith ['-', '-'] name then none else some (unquote name)

theorem loose?_lower (text : List Char) : loose? (lower text) = (loose? text).map lower := by
  have hloose : ∀ c : Char, isLoose c.toLower = isLoose c := by
    intro c
    rw [isLoose, isBlank_toLower, contains_toLower (by decide), isLoose]
  simp only [loose?, takeWhile_lower hloose, isEmpty_lower, unquote_lower]
  rw [startsWith_lower (by decide)]
  split <;> rfl

@[simp]
theorem ofContinuation?_lower (line : List Char) :
    ofContinuation? (lower line) = (ofContinuation? line).map lower := by
  rw [ofContinuation?, ofContinuation?, bodyOf_lower, Guard.token?_lower]
  cases Guard.token? (bodyOf line) with
  | none => exact loose?_lower (bodyOf line)
  | some found =>
      simp only [Option.map_some, Prod.map, bodyOf_lower]
      exact loose?_lower (bodyOf found.2)

end TableName

@[simp]
theorem Kind.tableName?_lower (kind : Kind) (body : List Char) :
    kind.tableName? (lower body) = (kind.tableName? body).map lower := by
  cases kind with
  | createTable => exact TableName.ofCreate?_lower body
  | dropTable => exact TableName.ofDrop?_lower body
  | other => rfl

namespace Statement

variable (body : List Char)

@[simp]
theorem isComment_lower : isComment (lower body) = isComment body :=
  startsWith_lower (by decide) body

@[simp]
theorem isBlockComment_lower : isBlockComment (lower body) = isBlockComment body :=
  startsWith_lower (by decide) body

theorem isDrop_lower : isDrop (lower body) = isDrop body := by
  rw [isDrop, phrase?_lower, isDrop]
  cases phrase? ["DROP".toList, "TABLE".toList] body with
  | none => rfl
  | some rest => exact atBoundary_lower rest

@[simp]
theorem createHead?_lower :
    createHead? (lower body) = (createHead? body).map (Prod.map lower lower) := by
  rw [createHead?, createHead?, afterCreate?, afterCreate?, phrase?_lower]
  cases phrase? ["CREATE".toList, "TABLE".toList] body with
  | none => rfl
  | some rest =>
      simp only [Option.map_some, Option.bind_eq_bind, Option.bind_some, atBoundary_lower,
        dropWhile_lower isGap_toLower]
      split
      · simp only [Option.map_some, taken_lower, Prod.map]
      · rfl

@[simp]
theorem kindOf_lower : kindOf (lower body) = kindOf body := by
  rw [kindOf, isDrop_lower, createHead?_lower, Option.isSome_map, kindOf]

@[simp]
theorem opens_lower : opens (lower body) = opens body := by
  have hword : ∀ w : List Char, (word? w (lower body)).any atBoundary =
      (word? w body).any atBoundary := by
    intro w
    rw [word?_lower]
    cases word? w body with
    | none => rfl
    | some rest => exact atBoundary_lower rest
  simp only [opens, isBlockComment_lower, hword]

@[simp]
theorem continuesDrop_lower (startsInCode : Bool) :
    continuesDrop startsInCode (lower body) = continuesDrop startsInCode body := by
  rw [continuesDrop, isEmpty_lower, isComment_lower, opens_lower, continuesDrop]

@[simp]
theorem isBareHead_lower : isBareHead (lower body) = isBareHead body := by
  rw [isBareHead, createHead?_lower, isBareHead]
  cases createHead? body with
  | none => rfl
  | some parts =>
      simp only [Option.map_some, Option.any_some, Prod.map, codeOnly_lower,
        all_lower isBlank_toLower]

@[simp]
theorem guardOf?_lower : guardOf? (lower body) = guardOf? body := by
  rw [guardOf?, createHead?_lower, guardOf?]
  cases createHead? body with
  | none => rfl
  | some parts => exact Guard.find?_lower parts.2

end Statement

end Rerun
