import Rerun.Guard
import Rerun.Proofs.Lexing
import Rerun.Proofs.Phrases

/-!
# Guards After an Edit

Where a guard is found, and that it is found again after it was mended.

A guard clause is a spelling of three words that ends at the end of a word,
and `search` finds the first one that begins a word (`search_eq_some_iff`).
Mending replaces the clause by its proper spelling, which changes the text
that everything before it is followed by. Still no earlier clause appears:
a clause that began earlier and reached the place of the mended one would
have a word beginning there, and the words after the first begin with other
letters (`token?_before`).

The search runs over blanked text while the clause is replaced in the text
itself, so a clause may stretch over comments and literals, and they vanish
with it. `find?_split` says that the text is cut at both ends of the clause
where its code goes on, and therefore nothing but the clause changes when
the edited text is blanked again.

## Main definitions

* `Spelling.words`: The words of a clause.
* `Guard.afterWord`: Whether a place stands right after a word.
* `Guard.FirstClause`: A clause in the place where it is found.
* `Guard.Stands`: A guard in the text it was found in.

## Theorems

* `Guard.token?_eq_some_iff`: What `token?` reads.
* `Guard.search_eq_some_iff`: What `search` finds.
* `Guard.search_ne_none`: A clause that begins a word is not missed.
* `Guard.FirstClause.replace`: A clause that replaces another one is found.
* `Guard.mend_append`: What mending a piece of a text gives.
* `Guard.find?_split`: The text around a guard that was found in it.
* `Guard.find?_mend`, `Guard.advance_mend`: The guard and the effect of the
  text after mending.
* `Guard.region_bland_append`: Blanks and words at the front of a text.
* `Guard.find?_clause`: A clause at the front of a text is found.
* `Guard.leading?_eq_some_iff`: What `leading?` finds.
* `Guard.leading?_mend`, `Guard.advance_mend_leading`: The guard that opens a
  line, and the effect of the line, after mending.
-/

namespace Rerun

open Text Keyword LexState

/-- The words of a clause. -/
def Spelling.words : Spelling → List (List Char)
  | .proper => ["IF".toList, "NOT".toList] ++ ["EXIST".toList ++ ['S']]
  | .typo => ["IF".toList, "NOT".toList] ++ ["EXIST".toList]

theorem Spelling.isKeyword_words (spelling : Spelling) :
    ∀ w ∈ spelling.words, IsKeyword w := by
  cases spelling <;> decide

theorem Keyword.Spells.bland {ws : List (List Char)} {a : List Char} (h : Spells ws a)
    (hws : ∀ w ∈ ws, IsKeyword w) : Bland a := by
  intro c hc
  rcases h.isGap_or_isWord hws c hc with hgap | hword
  · exact Or.inl (isBlank_of_isGap hgap)
  · exact Or.inr hword

theorem bland_indentOf (line : List Char) : Bland (indentOf line) :=
  fun _ hc => Or.inl (isBlank_of_mem_indentOf hc)

namespace Guard

theorem atBoundary_append {a b : List Char} (h : a ≠ []) :
    atBoundary (a ++ b) = atBoundary a := by
  cases a with
  | nil => exact absurd rfl h
  | cons c tail => rfl

/-- `token?` reads exactly the spellings of a clause that end at the end of a
    word. -/
theorem token?_eq_some_iff (text tail : List Char) (spelling : Spelling) :
    token? text = some (spelling, tail) ↔
      ∃ t, Spells spelling.words t ∧ text = t ++ tail ∧ atBoundary tail = true := by
  have htypo : ∀ rest, phrase? words text = some rest ↔
      ∃ t, Spells Spelling.typo.words t ∧ text = t ++ rest := fun rest =>
    phrase?_eq_some_iff Spelling.typo.isKeyword_words text rest
  simp only [token?, Option.bind_eq_bind, Option.bind_eq_some_iff, htypo]
  constructor
  · rintro ⟨rest, ⟨t, ht, rfl⟩, h⟩
    cases hs : word? ['S'] rest with
    | none =>
        simp only [hs] at h
        split at h
        · rename_i hb
          cases h
          exact ⟨t, ht, rfl, hb⟩
        · cases h
    | some tail' =>
        simp only [hs] at h
        split at h
        · rename_i hb
          cases h
          rcases (word?_eq_some_iff _ _ _).mp hs with ⟨x, hx, rfl⟩
          rcases List.map_eq_singleton_iff.mp hx with ⟨c, rfl, hc⟩
          exact ⟨t ++ [c], spells_concat_iff.mpr ⟨t, c, ht, hc, rfl⟩,
            by simp only [List.append_assoc], hb⟩
        · cases h
  · rintro ⟨t, ht, rfl, hb⟩
    cases spelling with
    | typo =>
        have hs : word? ['S'] tail = none := by
          rw [Option.eq_none_iff_forall_ne_some]
          intro rest hrest
          rcases (word?_eq_some_iff _ _ _).mp hrest with ⟨x, hx, rfl⟩
          rcases List.map_eq_singleton_iff.mp hx with ⟨c, rfl, hc⟩
          have hword : isWord c = true := isWord_of_toUpper (by rw [hc]; decide)
          simp [atBoundary, hword] at hb
        exact ⟨tail, ⟨t, ht, rfl⟩, by simp only [hs, hb, if_true]⟩
    | proper =>
        rcases spells_concat_iff.mp ht with ⟨b, c, hspell, hc, rfl⟩
        have hs : word? ['S'] (c :: tail) = some tail :=
          (word?_eq_some_iff _ _ _).mpr ⟨[c], by rw [List.map_singleton, hc], rfl⟩
        refine ⟨c :: tail, ⟨b, hspell, by simp only [List.append_assoc]; rfl⟩, ?_⟩
        simp only [hs, hb, if_true]

/-- Whether the place after `before` stands right after a word, where
    `inWord` says so of the place where `before` begins. -/
def afterWord (inWord : Bool) (before : List Char) : Bool :=
  (before.getLast?.map isWord).getD inWord

theorem afterWord_cons (inWord : Bool) (c : Char) (rest : List Char) :
    afterWord inWord (c :: rest) = afterWord (isWord c) rest := by
  cases rest with
  | nil => rfl
  | cons d more =>
      simp only [afterWord, List.getLast?_cons_cons]
      cases h : (d :: more).getLast? with
      | none => simp at h
      | some e => rfl

/-- A clause `t` in its place: it begins and ends a word, and no clause
    begins a word earlier. -/
structure FirstClause (inWord : Bool) (before t tail : List Char) (spelling : Spelling) :
    Prop where
  spells : Spells spelling.words t
  ends : atBoundary tail = true
  begins : afterWord inWord before = false
  first : ∀ a b, before = a ++ b → b ≠ [] → afterWord inWord a = false →
    token? (b ++ (t ++ tail)) = none

theorem FirstClause.token {inWord : Bool} {before t tail : List Char} {spelling : Spelling}
    (h : FirstClause inWord before t tail spelling) : token? (t ++ tail) = some (spelling, tail) :=
  (token?_eq_some_iff _ _ _).mpr ⟨t, h.spells, rfl, h.ends⟩

/-- A place is passed over if no clause begins a word there. -/
theorem firstClause_cons_iff {inWord : Bool} {c : Char} {before t tail : List Char}
    {spelling : Spelling} :
    FirstClause inWord (c :: before) t tail spelling ↔
      FirstClause (isWord c) before t tail spelling ∧
        (inWord = false → token? (c :: (before ++ (t ++ tail))) = none) := by
  constructor
  · intro h
    refine ⟨⟨h.spells, h.ends, ?_, ?_⟩, ?_⟩
    · rw [← h.begins, afterWord_cons]
    · intro a b hab hb ha
      exact h.first (c :: a) b (by rw [hab, List.cons_append]) hb (by rw [afterWord_cons, ha])
    · intro hin
      exact h.first [] (c :: before) rfl (List.cons_ne_nil c before) hin
  · rintro ⟨h, hhere⟩
    refine ⟨h.spells, h.ends, by rw [afterWord_cons, h.begins], ?_⟩
    intro a b hab hb ha
    cases a with
    | nil =>
        rw [List.nil_append] at hab
        rw [← hab]
        exact hhere ha
    | cons d a' =>
        rw [List.cons_append, List.cons.injEq] at hab
        rw [afterWord_cons, ← hab.1] at ha
        exact h.first a' b hab.2 hb ha

/-- `search` finds the first clause that begins a word. -/
theorem search_eq_some_iff (inWord : Bool) (pos : Nat) (text : List Char) (guard : Guard) :
    search inWord pos text = some guard ↔
      ∃ before t tail, FirstClause inWord before t tail guard.spelling ∧
        text = before ++ (t ++ tail) ∧ guard.start = pos + before.length ∧
        guard.stop = guard.start + t.length := by
  induction text generalizing inWord pos with
  | nil =>
      simp only [search, reduceCtorEq, false_iff]
      rintro ⟨before, t, tail, h, htext, -⟩
      -- A clause is not empty.
      rcases h.spells.last (Spelling.isKeyword_words _) with ⟨b, c, rfl, -⟩
      simp at htext
  | cons c rest ih =>
      rw [search]
      cases hhere : (if inWord = true then none else token? (c :: rest)) with
      | some found =>
          rcases found with ⟨spelling, tail⟩
          cases inWord with
          | true => simp at hhere
          | false =>
          have htoken : token? (c :: rest) = some (spelling, tail) := by simpa using hhere
          simp only []
          constructor
          · rintro ⟨rfl⟩
            rcases (token?_eq_some_iff _ _ _).mp htoken with ⟨t, ht, htext, hend⟩
            refine ⟨[], t, tail, ⟨ht, hend, rfl, ?_⟩, htext, rfl, ?_⟩
            · intro a b hab hb
              exact absurd (List.append_eq_nil_iff.mp hab.symm).2 hb
            · rw [htext, List.length_append, Nat.add_sub_cancel]
          · rintro ⟨before, t, tail', h, htext, hstart, hstop⟩
            cases before with
            | nil =>
                have hsame := h.token
                rw [List.nil_append] at htext
                rw [← htext, htoken, Option.some.injEq, Prod.mk.injEq] at hsame
                rw [hsame.1, hsame.2, htext, List.length_append, Nat.add_sub_cancel]
                simp only [List.length_nil, Nat.add_zero] at hstart
                rw [← hstart, ← hstop]
            | cons d before' =>
                have hnone := h.first [] (d :: before') rfl (List.cons_ne_nil _ _) rfl
                rw [← htext, htoken] at hnone
                cases hnone
      | none =>
          simp only [ih]
          have hnone : inWord = false → token? (c :: rest) = none := by
            rintro rfl
            simpa using hhere
          constructor
          · rintro ⟨before, t, tail, h, rfl, hstart, hstop⟩
            refine ⟨c :: before, t, tail, firstClause_cons_iff.mpr ⟨h, hnone⟩, rfl, ?_, hstop⟩
            rw [List.length_cons]
            omega
          · rintro ⟨before, t, tail, h, htext, hstart, hstop⟩
            cases before with
            | nil =>
                have hsome := h.token
                rw [List.nil_append] at htext
                rw [← htext, hnone h.begins] at hsome
                cases hsome
            | cons d before' =>
                rw [List.cons_append, List.cons.injEq] at htext
                rcases htext with ⟨rfl, htext⟩
                refine ⟨before', t, tail, (firstClause_cons_iff.mp h).1, htext, ?_, hstop⟩
                rw [List.length_cons] at hstart
                omega

/-- Where a clause begins a word, one is found there or before it. -/
theorem search_ne_none {inWord : Bool} {pos : Nat} {before text : List Char}
    (hbegins : afterWord inWord before = false) (htoken : token? text ≠ none) :
    search inWord pos (before ++ text) ≠ none := by
  induction before generalizing inWord pos with
  | nil =>
      cases text with
      | nil => exact absurd rfl htoken
      | cons c rest =>
          have hin : inWord = false := hbegins
          subst hin
          rcases Option.ne_none_iff_exists'.mp htoken with ⟨⟨spelling, tail⟩, hsome⟩
          simp [search, hsome]
  | cons c before ih =>
      rw [afterWord_cons] at hbegins
      rw [List.cons_append, search]
      split
      · exact Option.some_ne_none _
      · exact ih hbegins

/-- No word of a clause but the first begins with the letter I. -/
theorem no_later_word (spelling : Spelling) : ∀ w ∈ spelling.words.tail, w.head? ≠ some 'I' := by
  cases spelling <;> decide

/-- A clause that begins before a word with the letter I ends before it, and
    so it is there whatever that word is replaced by. -/
theorem token?_before {b : List Char} {x : Char} {after : List Char} {spelling : Spelling}
    {tail : List Char} (hb : b ≠ []) (hlast : afterWord true b = false) (hx : x.toUpper = 'I')
    (h : token? (b ++ x :: after) = some (spelling, tail)) (other : List Char) :
    token? (b ++ other) ≠ none := by
  rcases (token?_eq_some_iff _ _ _).mp h with ⟨t, ht, htext, hend⟩
  have hws := spelling.isKeyword_words
  have hxw : isWord x = true := isWord_of_toUpper (by rw [hx]; decide)
  rcases List.eq_nil_or_concat b with rfl | ⟨b', c, hbc⟩
  · exact absurd rfl hb
  rw [List.concat_eq_append] at hbc
  have hc : isWord c = false := by simpa [hbc, afterWord] using hlast
  rcases List.append_eq_append_iff.mp htext with ⟨t', htt, hrest⟩ | ⟨b'', hbb, hrest⟩
  · exfalso
    cases t' with
    | nil =>
        -- The clause ends with the text before the word, but not in a letter.
        rcases ht.last hws with ⟨d, e, hde, he⟩
        rw [List.append_nil, hde, hbc] at htt
        have hec : e = c := by simpa using congrArg List.getLast? htt
        rw [hec, hc] at he
        cases he
    | cons y more =>
        rw [htt, hbc, ← (List.cons.inj hrest).1, List.append_assoc] at ht
        rcases ht.word_start hws hc (isGap_eq_false hxw) with ⟨w, hw, hhead⟩
        rw [hx] at hhead
        exact no_later_word spelling w hw hhead
  · have hb'' : b'' ≠ [] := by
      rintro rfl
      rw [List.nil_append] at hrest
      rw [hrest, atBoundary, hxw] at hend
      cases hend
    have hsome : token? (b ++ other) = some (spelling, b'' ++ other) := by
      refine (token?_eq_some_iff _ _ _).mpr ⟨t, ht, by rw [hbb, List.append_assoc], ?_⟩
      rw [atBoundary_append hb'', ← atBoundary_append (b := x :: after) hb'', ← hrest]
      exact hend
    rw [hsome]
    exact Option.some_ne_none _

/-- A clause that replaces another one is the first clause in its place. -/
theorem FirstClause.replace {inWord : Bool} {before t tail : List Char} {spelling : Spelling}
    (h : FirstClause inWord before t tail spelling) {t' : List Char} {spelling' : Spelling}
    (ht' : Spells spelling'.words t') : FirstClause inWord before t' tail spelling' := by
  refine ⟨ht', h.ends, h.begins, ?_⟩
  intro a b hab hb ha
  cases hnone : token? (b ++ (t' ++ tail)) with
  | none => rfl
  | some found =>
      rcases found with ⟨sp, rest⟩
      -- The new clause begins with the letter I, so whatever was read before
      -- it was there before the replacement as well.
      rcases ht'.head spelling'.isKeyword_words with ⟨w, hw, x, more, rfl, hx, -⟩
      have hxI : x.toUpper = 'I' := by
        have hI : spelling'.words.head? = some "IF".toList := by cases spelling' <;> rfl
        rw [hI] at hw
        cases hw
        exact (Option.some.inj hx).symm
      have hlast : afterWord true b = false := by
        have hbegins := h.begins
        rw [hab] at hbegins
        rw [← hbegins]
        simp only [afterWord, List.getLast?_append]
        cases hl : b.getLast? with
        | none => exact absurd (List.getLast?_eq_none_iff.mp hl) hb
        | some d => rfl
      exact absurd (h.first a b hab hb ha) (token?_before hb hlast hxI hnone (t ++ tail))

theorem spells_clause : Spells Spelling.proper.words clause := by
  refine spells_cons_iff.mpr ⟨"IF".toList, [' '], "NOT EXISTS".toList, by decide, by decide, ?_,
    ?_, by decide⟩
  · intro c hc
    rw [List.mem_singleton.mp hc]
    decide
  · refine spells_cons_iff.mpr ⟨"NOT".toList, [' '], "EXISTS".toList, by decide, by decide, ?_,
      spells_one_iff.mpr (by decide), by decide⟩
    intro c hc
    rw [List.mem_singleton.mp hc]
    decide

theorem bland_clause : Bland clause :=
  spells_clause.bland Spelling.proper.isKeyword_words

theorem plain_clause : ∀ c ∈ clause, plain c = true :=
  bland_clause.plain

/-- Blanked text up to the column list, where the front holds none. -/
theorem takeWhile_noParen {a b : List Char} (ha : '(' ∉ a) :
    (a ++ b).takeWhile (fun c => c != '(') = a ++ b.takeWhile (fun c => c != '(') := by
  refine List.takeWhile_append_of_pos fun c hc => bne_iff_ne.mpr ?_
  rintro rfl
  exact ha hc

theorem noParen_region (text : List Char) : '(' ∉ region text := by
  intro h
  have hc := List.mem_takeWhile_imp (p := fun d => d != '(') h
  exact bne_iff_ne.mp hc rfl

/-- Mending puts the proper clause in the place of the piece that the guard takes
    up. -/
theorem mend_append {guard : Guard} {a b : List Char} (hstart : guard.start = a.length)
    (hstop : guard.stop = a.length + b.length) (c : List Char) :
    guard.mend (a ++ (b ++ c)) = a ++ (clause ++ c) := by
  rw [mend, hstart, hstop, List.take_left, ← List.append_assoc a b, ← List.length_append,
    List.drop_left, List.append_assoc]

/-- A guard in its text: the clause is a piece of it, and it is the first one
    in what is left of the parts when they are blanked one by one. -/
structure Stands (guard : Guard) (before tok after : List Char) : Prop where
  piece : Piece before tok after
  start : guard.start = before.length
  stop : guard.stop = before.length + tok.length
  noParen : '(' ∉ codeOnly before
  first : FirstClause false (codeOnly before) (codeOnly tok) (region after) guard.spelling

/-- The text around a guard that was found in it. -/
theorem find?_split {rest : List Char} {guard : Guard} (h : find? rest = some guard) :
    ∃ before tok after, rest = before ++ (tok ++ after) ∧ guard.Stands before tok after := by
  rcases (search_eq_some_iff _ _ _ _).mp h with ⟨A, T, B, hfirst, hregion, hstart, hstop⟩
  have hws := guard.spelling.isKeyword_words
  have hcode : codeOnly rest = A ++ (T ++ (B ++ (codeOnly rest).dropWhile fun c => c != '(')) := by
    have hall := List.takeWhile_append_dropWhile (p := fun c => c != '(') (l := codeOnly rest)
    rw [show (codeOnly rest).takeWhile (fun c => c != '(') = A ++ (T ++ B) from hregion] at hall
    simpa only [List.append_assoc] using hall.symm
  have hno : '(' ∉ A ++ (T ++ B) := by
    rw [← hregion]
    exact noParen_region rest
  simp only [List.mem_append, not_or] at hno
  rcases hno with ⟨hnoA, hnoT, -⟩
  rcases hfirst.spells.head hws with ⟨-, -, c, T₁, hT₁, -, hc⟩
  rcases hfirst.spells.last hws with ⟨T₂, d, hT₂, hd⟩
  rcases exists_piece hcode hT₁ hc hT₂ hd with ⟨before, tok, after, rfl, hpiece, hA, hT, -⟩
  -- The search stops at the column list behind the clause.
  have hB : region after = B := by
    have hparts := hregion
    rw [region, hpiece.codeOnly_eq, hA, hT, takeWhile_noParen hnoA,
      takeWhile_noParen hnoT] at hparts
    exact List.append_cancel_left (List.append_cancel_left hparts)
  have hbefore : A.length = before.length := by rw [← hA, length_codeOnly]
  have htok : T.length = tok.length := by rw [← hT, length_codeOnly]
  refine ⟨before, tok, after, rfl, ⟨hpiece, by omega, by omega, ?_, ?_⟩⟩
  · rw [hA]
    exact hnoA
  · rw [hA, hT, hB]
    exact hfirst

variable {guard : Guard} {before tok after : List Char}

theorem Stands.mend_eq (h : guard.Stands before tok after) :
    guard.mend (before ++ (tok ++ after)) = before ++ (clause ++ after) :=
  mend_append h.start h.stop after

/-- A clause put in the place of another one is found there. -/
theorem Stands.find?_clause (h : guard.Stands before tok after) :
    find? (before ++ (clause ++ after)) =
      some ⟨.proper, before.length, before.length + clause.length⟩ := by
  have hclause : codeOnly clause = clause := codeOnly_of_plain plain_clause
  have hcode : codeOnly (before ++ (clause ++ after))
      = codeOnly before ++ (clause ++ codeOnly after) := by
    rw [codeOnly_closed_append h.piece.closed_before (Or.inr rfl),
      codeOnly_closed_append (closed_of_plain plain_clause).1 (cutAt_of_plain plain_clause after),
      hclause]
  have hregion : region (before ++ (clause ++ after))
      = codeOnly before ++ (clause ++ region after) := by
    rw [region, hcode, takeWhile_noParen h.noParen, takeWhile_noParen (by decide)]
    rfl
  refine (search_eq_some_iff _ _ _ _).mpr ⟨codeOnly before, clause, region after,
    h.first.replace spells_clause, hregion, ?_, rfl⟩
  rw [length_codeOnly, Nat.zero_add]

/-- A mended guard is found in the place of the clause it replaced. -/
theorem find?_mend {rest : List Char} (h : find? rest = some guard) :
    find? (guard.mend rest) = some ⟨.proper, guard.start, guard.start + clause.length⟩ := by
  rcases find?_split h with ⟨before, tok, after, rfl, hs⟩
  rw [hs.mend_eq, hs.find?_clause, hs.start]

/-- Mending does not change the effect of the text. The clause may have
    stretched over comments and literals, but its own code is words only. -/
theorem advance_mend {rest : List Char} (h : find? rest = some guard) :
    code.advance (guard.mend rest) = code.advance rest := by
  rcases find?_split h with ⟨before, tok, after, rfl, hs⟩
  have hclosed : Closed tok :=
    hs.piece.closed_before.of_append hs.piece.closed hs.piece.cut_before.of_append_right
  have hsilent : Silent tok :=
    silent_of_codeOnly hclosed (hs.first.spells.bland guard.spelling.isKeyword_words)
  rw [hs.mend_eq, advance_closed_append hs.piece.closed_before (Or.inr rfl),
    advance_bland_append bland_clause,
    advance_closed_append hs.piece.closed_before hs.piece.cut_before,
    advance_silent_append hsilent hs.piece.cut.of_append_left]

/-- Blanks and words at the front of a text are searched as they are. -/
theorem region_bland_append {front : List Char} (h : Bland front) (rest : List Char) :
    region (front ++ rest) = front ++ region rest := by
  have hparen : '(' ∉ front := by
    intro hc
    rcases h _ hc with h | h
    · exact absurd h (by decide)
    · exact absurd h (by decide)
  rw [region, codeOnly_closed_append (closed_of_plain h.plain).1 (cutAt_of_plain h.plain rest),
    codeOnly_of_plain h.plain, takeWhile_noParen hparen, region]

/-- A clause at the front of a text is found if it ends a word there. -/
theorem find?_clause {after : List Char} (h : atBoundary (region after) = true) :
    find? (clause ++ after) = some ⟨.proper, 0, clause.length⟩ := by
  refine (search_eq_some_iff _ _ _ _).mpr ⟨[], clause, region after,
    ⟨spells_clause, h, rfl, ?_⟩, region_bland_append bland_clause after, rfl, ?_⟩
  · intro a b hab hb
    exact absurd (List.append_eq_nil_iff.mp hab.symm).2 hb
  · rfl

/-- A line that a guard opens is indentation, clause and rest. -/
theorem leading?_eq_some_iff (line : List Char) (guard : Guard) :
    leading? line = some guard ↔ ∃ t tail, bodyOf line = t ++ tail ∧
      Spells guard.spelling.words t ∧ atBoundary tail = true ∧
      guard.start = (indentOf line).length ∧ guard.stop = guard.start + t.length := by
  simp only [leading?, Option.bind_eq_bind, Option.bind_eq_some_iff, Prod.exists, Option.pure_def,
    Option.some.injEq, token?_eq_some_iff]
  constructor
  · rintro ⟨spelling, tail, ⟨t, ht, hbody, hend⟩, rfl⟩
    refine ⟨t, tail, hbody, ht, hend, rfl, ?_⟩
    rw [hbody, List.length_append, Nat.add_sub_cancel]
  · rintro ⟨t, tail, hbody, ht, hend, hstart, hstop⟩
    refine ⟨guard.spelling, tail, ⟨t, ht, hbody, hend⟩, ?_⟩
    rw [hbody, List.length_append, Nat.add_sub_cancel, ← hstart, ← hstop]

/-- A mended line is its indentation, the proper clause and the old rest. -/
theorem mend_leading {line : List Char} {guard : Guard} (h : leading? line = some guard) :
    ∃ t tail, line = indentOf line ++ (t ++ tail) ∧ Spells guard.spelling.words t ∧
      atBoundary tail = true ∧ guard.mend line = indentOf line ++ (clause ++ tail) := by
  rcases (leading?_eq_some_iff _ _).mp h with ⟨t, tail, hbody, ht, hend, hstart, hstop⟩
  have hline : line = indentOf line ++ (t ++ tail) := by
    rw [← hbody, indentOf_append_bodyOf]
  refine ⟨t, tail, hline, ht, hend, ?_⟩
  have hmend := mend_append hstart (by rw [hstop, hstart]) tail
  rwa [← hline] at hmend

/-- A mended guard still opens its line. -/
theorem leading?_mend {line : List Char} {guard : Guard} (h : leading? line = some guard) :
    leading? (guard.mend line) = some ⟨.proper, guard.start, guard.start + clause.length⟩ := by
  rcases mend_leading h with ⟨t, tail, hline, ht, hend, hmend⟩
  rcases (leading?_eq_some_iff _ _).mp h with ⟨-, -, -, -, -, hstart, -⟩
  have hblank : ∀ c ∈ indentOf line, isBlank c = true := fun c => isBlank_of_mem_indentOf
  have hhead : (clause ++ tail).head?.any isBlank = false := rfl
  rw [hmend]
  refine (leading?_eq_some_iff _ _).mpr ⟨clause, tail, bodyOf_append hblank hhead, spells_clause,
    hend, ?_, rfl⟩
  rw [indentOf_append hblank hhead, hstart]

/-- Mending the guard that opens a line does not change the effect of the
    line. -/
theorem advance_mend_leading {line : List Char} {guard : Guard} (h : leading? line = some guard) :
    code.advance (guard.mend line) = code.advance line := by
  rcases mend_leading h with ⟨t, tail, hline, ht, -, hmend⟩
  have hbland : Bland t := ht.bland guard.spelling.isKeyword_words
  have hold : code.advance (indentOf line ++ (t ++ tail)) = code.advance tail := by
    rw [advance_bland_append (bland_indentOf line), advance_bland_append hbland]
  rw [← hline] at hold
  rw [hmend, advance_bland_append (bland_indentOf line), advance_bland_append bland_clause, hold]

end Guard

end Rerun
