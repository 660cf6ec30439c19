import Rerun.Proofs.Lines

/-!
# Texts and Lists of Pairs

A text is the same thing as a list of contents and endings, as long as the
list is one that a text can be split into. Splitting a text and writing the
pieces one after the other gives the text, and a well formed list that is
written and split again is the same list.

The pairs here are pairs of texts. That an ending is one of three is no matter
of type but part of being well formed, like the other conditions: no content
holds a line feed, a content before a bare line feed does not end in a carriage
return, and only the last pair may have no ending, and then it has a content.
Each condition is needed. Without it there would be two lists for one text, and
splitting could give only one of them back.

`WellSplit` says the same of lines, front to back. `wellFormed_map_pair_iff`
is the comparison of the two, and the rest is known of lines.

## Main definitions

* `Line.pair`: The content of a line and the characters that ended it.
* `joinPairs`: The text that pairs make up.
* `WellFormed`: Pairs that a text can be split into.

## Theorems

* `wellFormed_cons_iff`: A pair in front of others.
* `wellFormed_map_pair_iff`: Lines that are well split have well formed pairs.
* `exists_lines`: Pairs with proper endings are those of lines.
* `splitLines_inverse`: Splitting and joining are inverse to each other.
-/

namespace Rerun

/-- The content of a line and the characters that ended it. -/
def Line.pair (line : Line) : List Char × List Char :=
  (line.content, line.ending.chars)

/-- The text that contents and endings make up. -/
def joinPairs (pairs : List (List Char × List Char)) : List Char :=
  pairs.flatMap fun pair => pair.1 ++ pair.2

/-- Contents and endings that a text can be split into. -/
structure WellFormed (pairs : List (List Char × List Char)) : Prop where
  noFeed : ∀ pair ∈ pairs, '\n' ∉ pair.1
  ending : ∀ pair ∈ pairs, pair.2 = ['\n'] ∨ pair.2 = ['\r', '\n'] ∨ pair.2 = []
  noReturn : ∀ pair ∈ pairs, pair.2 = ['\n'] → pair.1.getLast? ≠ some '\r'
  /-- Only the last pair may have no ending. -/
  ended : ∀ pair ∈ pairs.dropLast, pair.2 ≠ []
  /-- A pair that has no ending has a content. -/
  filled : ∀ pair ∈ pairs, pair.2 = [] → pair.1 ≠ []

theorem Terminator.chars_eq_feed_iff (ending : Terminator) :
    ending.chars = ['\n'] ↔ ending = .lf := by
  cases ending <;> decide

theorem Terminator.chars_eq_nil_iff (ending : Terminator) :
    ending.chars = [] ↔ ending = .missing := by
  cases ending <;> decide

theorem Terminator.chars_cases (ending : Terminator) :
    ending.chars = ['\n'] ∨ ending.chars = ['\r', '\n'] ∨ ending.chars = [] := by
  cases ending <;> decide

/-- Writing lines is writing their pairs. -/
theorem joinPairs_map_pair (lines : List Line) :
    joinPairs (lines.map Line.pair) = joinLines lines :=
  List.flatMap_map ..

/-- A pair in front of others. If it has no ending, there are no others. -/
theorem wellFormed_cons_iff (pair : List Char × List Char) (rest : List (List Char × List Char)) :
    WellFormed (pair :: rest) ↔
      ('\n' ∉ pair.1 ∧ (pair.2 = ['\n'] ∨ pair.2 = ['\r', '\n'] ∨ pair.2 = []) ∧
        (pair.2 = ['\n'] → pair.1.getLast? ≠ some '\r') ∧
        (pair.2 = [] → pair.1 ≠ [] ∧ rest = [])) ∧ WellFormed rest := by
  constructor
  · intro h
    refine ⟨⟨h.noFeed _ List.mem_cons_self, h.ending _ List.mem_cons_self,
      h.noReturn _ List.mem_cons_self, ?_⟩, ?_⟩
    · intro hnone
      refine ⟨h.filled _ List.mem_cons_self hnone, ?_⟩
      -- With others behind it the pair would not be the last one.
      by_contra hrest
      refine h.ended pair ?_ hnone
      rw [List.dropLast_cons_of_ne_nil hrest]
      exact List.mem_cons_self
    · refine ⟨fun p hp => h.noFeed p (List.mem_cons_of_mem _ hp),
        fun p hp => h.ending p (List.mem_cons_of_mem _ hp),
        fun p hp => h.noReturn p (List.mem_cons_of_mem _ hp), ?_,
        fun p hp => h.filled p (List.mem_cons_of_mem _ hp)⟩
      intro p hp
      have hne : rest ≠ [] := by
        rintro rfl
        cases hp
      refine h.ended p ?_
      rw [List.dropLast_cons_of_ne_nil hne]
      exact List.mem_cons_of_mem _ hp
  · rintro ⟨⟨hfeed, hending, hreturn, hlast⟩, h⟩
    refine ⟨List.forall_mem_cons.mpr ⟨hfeed, h.noFeed⟩,
      List.forall_mem_cons.mpr ⟨hending, h.ending⟩,
      List.forall_mem_cons.mpr ⟨hreturn, h.noReturn⟩, ?_,
      List.forall_mem_cons.mpr ⟨fun hnone => (hlast hnone).1, h.filled⟩⟩
    by_cases hrest : rest = []
    · rw [hrest]
      intro p hp
      cases hp
    · rw [List.dropLast_cons_of_ne_nil hrest]
      exact List.forall_mem_cons.mpr ⟨fun hnone => hrest (hlast hnone).2, h.ended⟩

/-- Lines are well split exactly if their pairs are well formed. -/
theorem wellFormed_map_pair_iff (lines : List Line) :
    WellFormed (lines.map Line.pair) ↔ WellSplit lines := by
  induction lines with
  | nil =>
      refine iff_of_true ?_ trivial
      constructor <;> simp
  | cons line rest ih =>
      rw [List.map_cons, wellFormed_cons_iff, ih, WellSplit]
      refine (and_congr_left fun _ => ?_).trans and_assoc
      constructor
      · rintro ⟨hfeed, -, hreturn, hlast⟩
        refine ⟨⟨hfeed, fun hlf => hreturn (line.ending.chars_eq_feed_iff.mpr hlf)⟩, ?_⟩
        intro hmissing
        rcases hlast (line.ending.chars_eq_nil_iff.mpr hmissing) with ⟨hcontent, hrest⟩
        exact ⟨hcontent, List.map_eq_nil_iff.mp hrest⟩
      · rintro ⟨⟨hfeed, hreturn⟩, hlast⟩
        refine ⟨hfeed, line.ending.chars_cases, fun hlf => ?_, fun hnone => ?_⟩
        · exact hreturn (line.ending.chars_eq_feed_iff.mp hlf)
        · rcases hlast (line.ending.chars_eq_nil_iff.mp hnone) with ⟨hcontent, hrest⟩
          exact ⟨hcontent, List.map_eq_nil_iff.mpr hrest⟩

/-- Pairs with proper endings are those of some lines. -/
theorem exists_lines {pairs : List (List Char × List Char)}
    (h : ∀ pair ∈ pairs, pair.2 = ['\n'] ∨ pair.2 = ['\r', '\n'] ∨ pair.2 = []) :
    ∃ lines : List Line, lines.map Line.pair = pairs := by
  induction pairs with
  | nil => exact ⟨[], rfl⟩
  | cons pair rest ih =>
      rcases List.forall_mem_cons.mp h with ⟨hpair, hrest⟩
      rcases ih hrest with ⟨lines, rfl⟩
      have hending : ∃ ending : Terminator, ending.chars = pair.2 := by
        rcases hpair with h | h | h
        · exact ⟨.lf, h.symm⟩
        · exact ⟨.crlf, h.symm⟩
        · exact ⟨.missing, h.symm⟩
      rcases hending with ⟨ending, hchars⟩
      refine ⟨⟨pair.1, ending⟩ :: lines, ?_⟩
      rw [List.map_cons, Line.pair, hchars]

/-- Splitting and joining are inverse to each other. The lines of a text are
    well formed and make up the text, and a well formed list is what the text
    that it makes up is split into. -/
theorem splitLines_inverse :
    (∀ text : List Char,
      joinPairs ((splitLines text).map Line.pair) = text ∧
        WellFormed ((splitLines text).map Line.pair)) ∧
    (∀ pairs : List (List Char × List Char), WellFormed pairs →
      (splitLines (joinPairs pairs)).map Line.pair = pairs) := by
  constructor
  · intro text
    refine ⟨?_, (wellFormed_map_pair_iff _).mpr (wellSplit_splitLines text)⟩
    rw [joinPairs_map_pair, joinLines_splitLines]
  · intro pairs h
    rcases exists_lines h.ending with ⟨lines, rfl⟩
    have hsplit : WellSplit lines := (wellFormed_map_pair_iff lines).mp h
    rw [joinPairs_map_pair, splitLines_joinLines lines hsplit]

-- A carriage return may end a content if it does not stand before a bare line
-- feed.
example :
    (splitLines "a\r\r\nb\n\r".toList).map Line.pair =
      [("a\r".toList, "\r\n".toList), ("b".toList, "\n".toList), ("\r".toList, [])] := by
  decide

end Rerun
