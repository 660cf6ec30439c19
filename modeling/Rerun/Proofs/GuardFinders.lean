import Rerun.Proofs.Guards

/-!
# Two Ways to Find a Guard

A guard that opens a line is looked for in the line itself, right behind the
indentation (`Guard.leading?`). A guard anywhere in a line is looked for in
blanked text, up to the first parenthesis (`Guard.find?`). Where both apply they
give the same answer, and `leading?_iff_find?` says where that is.

Nothing that could mislead the search stands before the clause: the indentation
holds blanks, and no clause begins with one. The clause itself is made of
letters and blanks, which are never blanked out. So the two can only differ
about the character behind the clause, and they do not, because a word
character at the front of a text is always code (`atBoundary_region`).

On the way back one thing has to be ruled out. In blanked text a comment or a
literal between two words of a clause looks like a gap, and the search takes
such a clause for a guard. If the clause as it is written holds nothing but
the words and ASCII blanks, nothing was blanked out in it.

## Theorems

* `Guard.firstClause_of_blank`: A clause behind blanks is the first one.
* `Guard.atBoundary_region`: A word ends in a text if it ends in its code.
* `Guard.find?_of_leading?`: A guard that opens a line is found in the line.
* `Guard.leading?_of_find?`: A guard behind blanks opens its line, if it is
  written without comments and literals.
* `Guard.leading?_iff_find?`: Where the two finders agree.
-/

namespace Rerun

open Text Keyword LexState

namespace Guard

/-- A clause behind blanks is the first one in its text. -/
theorem firstClause_of_blank {before t tail : List Char} {spelling : Spelling}
    (hblank : ∀ c ∈ before, isBlank c = true) (ht : Spells spelling.words t)
    (hend : atBoundary tail = true) : FirstClause false before t tail spelling := by
  refine ⟨ht, hend, ?_, ?_⟩
  · rw [afterWord]
    cases hlast : before.getLast? with
    | none => rfl
    | some c => exact isWord_eq_false (hblank c (List.mem_of_getLast? hlast))
  · intro a b hab hb _
    rw [Option.eq_none_iff_forall_ne_some]
    rintro ⟨other, rest⟩ hsome
    -- The first character of a clause is a letter, and here it is a blank.
    rcases (token?_eq_some_iff _ _ _).mp hsome with ⟨t', ht', htext, -⟩
    rcases ht'.head other.isKeyword_words with ⟨-, -, x, more, rfl, -, hx⟩
    cases b with
    | nil => exact hb rfl
    | cons c b' =>
        rw [List.cons_append, List.cons_append, List.cons.injEq] at htext
        have hc : isBlank c = true := hblank c (by rw [hab]; simp)
        rw [htext.1, isBlank_eq_false hx] at hc
        cases hc

/-- A word that ends where a text begins has ended in the code of the text, and
    the other way round. -/
theorem atBoundary_region (text : List Char) : atBoundary (region text) = atBoundary text := by
  cases text with
  | nil => rfl
  | cons c rest =>
      by_cases hc : isWord c = true
      · have hbland : Bland [c] := by
          intro d hd
          rw [List.mem_singleton.mp hd]
          exact Or.inr hc
        have hregion : region (c :: rest) = c :: region rest := region_bland_append hbland rest
        rw [hregion, atBoundary, atBoundary]
      · have hend : atBoundary (c :: rest) = true := by
          rw [atBoundary, Bool.eq_false_iff.mpr hc]
          rfl
        rw [hend]
        cases hregion : region (c :: rest) with
        | nil => rfl
        | cons d more =>
            -- A word character in front of the code would be that of the text.
            rw [atBoundary, Bool.not_eq_true']
            by_contra hd
            rw [Bool.not_eq_false] at hd
            have hfirst : (codeOnly (c :: rest))[0]? = some d := by
              have hprefix := List.takeWhile_prefix (l := codeOnly (c :: rest)) fun x => x != '('
              rw [show (codeOnly (c :: rest)).takeWhile (fun x => x != '(') = d :: more from
                hregion] at hprefix
              rcases hprefix with ⟨later, hlater⟩
              rw [← hlater]
              rfl
            rcases closed_of_codeOnly hfirst hd with ⟨a, b, ha, htext, -⟩
            rw [List.eq_nil_of_length_eq_zero ha, List.nil_append, List.cons.injEq] at htext
            exact hc (htext.1 ▸ hd)

variable {line : List Char} {guard : Guard}

/-- A guard that opens a line is the guard that is found in the line. -/
theorem find?_of_leading? (h : leading? line = some guard) : find? line = some guard := by
  rcases (leading?_eq_some_iff _ _).mp h with ⟨t, tail, hbody, ht, hend, hstart, hstop⟩
  have hline : line = indentOf line ++ (t ++ tail) := by
    rw [← hbody, indentOf_append_bodyOf]
  have hregion : region line = indentOf line ++ (t ++ region tail) := by
    conv => lhs; rw [hline]
    rw [region_bland_append (bland_indentOf line),
      region_bland_append (ht.bland guard.spelling.isKeyword_words)]
  have hfirst : FirstClause false (indentOf line) t (region tail) guard.spelling := by
    refine firstClause_of_blank (fun c => isBlank_of_mem_indentOf) ht ?_
    rw [atBoundary_region]
    exact hend
  refine (search_eq_some_iff _ _ _ _).mpr ⟨indentOf line, t, region tail, hfirst, hregion, ?_,
    hstop⟩
  rw [hstart, Nat.zero_add]

/-- What stands before a guard that opens a line, and the guard itself. -/
theorem mem_of_leading? (h : leading? line = some guard) :
    (∀ c ∈ line.take guard.start, isBlank c = true) ∧
      ∀ c ∈ (line.take guard.stop).drop guard.start,
        isGap c = true ∨ ∃ w ∈ guard.spelling.words, c.toUpper ∈ w := by
  rcases (leading?_eq_some_iff _ _).mp h with ⟨t, tail, hbody, ht, -, hstart, hstop⟩
  have hline : line = indentOf line ++ (t ++ tail) := by
    rw [← hbody, indentOf_append_bodyOf]
  have hbefore : line.take guard.start = indentOf line := by
    conv => lhs; rw [hline]
    rw [hstart, List.take_left]
  have hclause : (line.take guard.stop).drop guard.start = t := by
    conv => lhs; rw [hline]
    rw [hstop, hstart, ← List.append_assoc, ← List.length_append, List.take_left, List.drop_left]
  rw [hbefore, hclause]
  exact ⟨fun c => isBlank_of_mem_indentOf, ht.mem⟩

/-- A guard that is found behind blanks opens its line, if nothing but its words
    and ASCII blanks stand in it. -/
theorem leading?_of_find? (h : find? line = some guard)
    (hblank : ∀ c ∈ line.take guard.start, isBlank c = true)
    (hclause : ∀ c ∈ (line.take guard.stop).drop guard.start,
      isGap c = true ∨ ∃ w ∈ guard.spelling.words, c.toUpper ∈ w) :
    leading? line = some guard := by
  rcases find?_split h with ⟨before, tok, after, rfl, hstands⟩
  rw [hstands.start, List.take_left] at hblank
  rw [hstands.stop, hstands.start, ← List.append_assoc, ← List.length_append, List.take_left,
    List.drop_left] at hclause
  have hws := guard.spelling.isKeyword_words
  -- Nothing is blanked out in the clause, so it is spelled as it is written.
  have hbland : Bland tok := by
    intro c hc
    rcases hclause c hc with hgap | ⟨w, hw, hcw⟩
    · exact Or.inl (isBlank_of_isGap hgap)
    · exact Or.inr (isWord_of_toUpper ((hws w hw).2 _ hcw))
  have hspells : Spells guard.spelling.words tok := by
    have hcode := hstands.first.spells
    rwa [codeOnly_of_plain hbland.plain] at hcode
  have hend : atBoundary after = true := by
    rw [← atBoundary_region]
    exact hstands.first.ends
  have hhead : (tok ++ after).head?.any isBlank = false := by
    rcases hspells.head hws with ⟨-, -, c, more, rfl, -, hc⟩
    exact isBlank_eq_false hc
  refine (leading?_eq_some_iff _ _).mpr ⟨tok, after, bodyOf_append hblank hhead, hspells, hend,
    ?_, ?_⟩
  · rw [indentOf_append hblank hhead, hstands.start]
  · rw [hstands.stop, hstands.start]

/-- A guard opens a line exactly if it is the guard that is found in the line,
    only blanks stand before it, and nothing but the words of the clause and
    ASCII blanks stand in it. Spelling and both ends are the same. -/
theorem leading?_iff_find? (line : List Char) (guard : Guard) :
    leading? line = some guard ↔
      find? line = some guard ∧
      (∀ c ∈ line.take guard.start, isBlank c = true) ∧
      ∀ c ∈ (line.take guard.stop).drop guard.start,
        isGap c = true ∨ ∃ w ∈ guard.spelling.words, c.toUpper ∈ w := by
  constructor
  · intro h
    exact ⟨find?_of_leading? h, mem_of_leading? h⟩
  · rintro ⟨hfind, hblank, hclause⟩
    exact leading?_of_find? hfind hblank hclause

-- With a comment between the words a guard is found, but it opens no line.
example :
    find? "\u00A0if /* not */ not exist(".toList = some ⟨.typo, 1, 23⟩ ∧
      leading? "\u00A0if /* not */ not exist(".toList = none := by
  decide

end Guard

end Rerun
