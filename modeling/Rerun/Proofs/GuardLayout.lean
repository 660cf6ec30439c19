import Rerun.Proofs.Spans

/-!
# Where a Guard May Be Laid Out

A `CREATE TABLE` statement may carry its guard and still receive a second
one, because the statement is looked at line by line. This module says for
which layouts that happens.

A statement is guarded if its code begins with `CREATE TABLE IF NOT EXISTS`,
where a comment or a line break counts as a blank. `Statement.beginsGuarded`
is that test, and it is put to two texts: the code of the whole span and the
code of its opening line. If the opening line passes, the clause is found on
it. If only the span passes, the line was cut somewhere before the end of the
clause. A line break is no part of a word, so the last word of the clause is
missing from the opening line altogether, and nothing on it can be taken for
a clause (`guardOf?_eq_none_iff`). It is then up to the next line, which
counts only after a bare head and only if it begins with the clause.

## Main definitions

* `LexState.blanked`: A line with comments and literals blanked out.
* `Script.codeOf`: The code of a span.
* `Statement.beginsGuarded`: Whether a code begins with a guarded head.

## Theorems

* `Statement.beginsGuarded_iff`: What follows the head of a guarded code.
* `Statement.guardOf?_eq_none_iff`: When the guard of a statement is not seen
  on its opening line.
* `Patch.create_insertGuard_iff`: When a `CREATE TABLE` receives a guard.
* `Script.turn_of_createTable`: The turn of a line that opens a
  `CREATE TABLE`.
* `Script.insertGuard_iff`: When a guarded statement receives a second guard.
* `Script.guard_doubled`: A statement that does.
-/

namespace Rerun

open Text Keyword LexState

/-- A line with comments and literals blanked out, read from a given state. -/
def LexState.blanked (state : LexState) (text : List Char) : List Char :=
  (state.walk false text).1.map fun c => c.getD ' '

/-- The code of some lines, each read from the state that the lines before it
    lead to. A line break is kept, as a blank. -/
def codeOfLines (state : LexState) : List Line → List Char
  | [] => []
  | line :: rest =>
    state.blanked line.content ++ '\n' :: codeOfLines (state.advance line.content).last rest

/-- The code of a span. Literals are blanked along with comments, so that more
    statements count as guarded and not fewer. -/
def Script.codeOf (script : Script) (span : Span) : List Char :=
  let before := span.startLine - 1
  codeOfLines (script.stateBefore before)
    ((script.body.drop before).take (span.endLine - before))

namespace Statement

/-- Whether a code begins with `CREATE TABLE`, blanks, and the words
    `IF NOT EXISTS`. -/
def beginsGuarded (code : List Char) : Bool :=
  (phrase? createWords (bodyOf code)).any fun rest =>
    rest.head?.any isBlank && (phrase? Spelling.proper.words (bodyOf rest)).any atBoundary

theorem bodyOf_gaps {g : List Char} (hg : Gaps g) (text : List Char) :
    bodyOf (g ++ text) = bodyOf text :=
  List.dropWhile_append_of_pos fun c hc => isBlank_of_isGap (hg c hc)

/-- A word that has ended has ended in a shorter text as well. -/
theorem atBoundary_takeWhile (p : Char → Bool) {text : List Char} (h : atBoundary text = true) :
    atBoundary (text.takeWhile p) = true := by
  cases text with
  | nil => rfl
  | cons c tail =>
      rw [List.takeWhile_cons]
      split
      · exact h
      · rfl

section OpeningLine

variable {content head rest : List Char}

/-- Nothing is blanked before the rest of a line with a head. -/
theorem codeOnly_of_createHead? (h : createHead? (bodyOf content) = some (head, rest)) :
    codeOnly content = indentOf content ++ (head ++ codeOnly rest) := by
  have hplain := plain_indentOf content
  have hhead := plain_head h
  conv => lhs; rw [content_eq h]
  rw [codeOnly_closed_append (closed_of_plain hplain).1 (cutAt_of_plain hplain _),
    codeOnly_closed_append (closed_of_plain hhead).1 (cutAt_of_plain hhead _),
    codeOnly_of_plain hplain, codeOnly_of_plain hhead]

/-- A code that begins with the opening line of a `CREATE TABLE` is guarded if
    a blank and the clause follow the words of the head. -/
theorem beginsGuarded_iff (h : createHead? (bodyOf content) = some (head, rest)) :
    ∃ g, Gaps g ∧ ∀ after, beginsGuarded (codeOnly content ++ after) = true ↔
      (g ++ (codeOnly rest ++ after)).head?.any isBlank = true ∧
      ∃ t tail, bodyOf (codeOnly rest ++ after) = t ++ tail ∧
        Spells Spelling.proper.words t ∧ atBoundary tail = true := by
  rcases (createHead?_eq_some_iff _ _ _).mp h with ⟨-, p, g, hp, hg, rfl, -⟩
  refine ⟨g, hg, ?_⟩
  intro after
  -- The recogniser reads the words of the head, whatever follows them.
  have hbody : bodyOf (codeOnly content ++ after) = p ++ (g ++ (codeOnly rest ++ after)) := by
    have hafter := bodyOf_after_head h (codeOnly rest ++ after)
    rw [codeOnly_of_createHead? h]
    simpa only [List.append_assoc] using hafter
  have hphrase : phrase? createWords (p ++ (g ++ (codeOnly rest ++ after))) =
      some (g ++ (codeOnly rest ++ after)) :=
    (phrase?_eq_some_iff isKeyword_createWords _ _).mpr ⟨p, hp, rfl⟩
  have hclause : ∀ tail, phrase? Spelling.proper.words (bodyOf (codeOnly rest ++ after)) =
      some tail ↔ ∃ t, Spells Spelling.proper.words t ∧
        bodyOf (codeOnly rest ++ after) = t ++ tail := fun tail =>
    phrase?_eq_some_iff Spelling.proper.isKeyword_words _ tail
  rw [beginsGuarded, hbody, hphrase, Option.any_some, Bool.and_eq_true, bodyOf_gaps hg]
  refine and_congr_right fun _ => ?_
  rw [Option.any_eq_true]
  simp only [hclause]
  constructor
  · rintro ⟨tail, ⟨t, ht, heq⟩, hend⟩
    exact ⟨t, tail, heq, ht, hend⟩
  · rintro ⟨t, tail, heq, ht, hend⟩
    exact ⟨tail, ⟨t, ht, heq⟩, hend⟩

/-- A clause that opens the code behind a head is found. -/
theorem find?_ne_none {t tail : List Char} (hbody : bodyOf (codeOnly rest) = t ++ tail)
    (ht : Spells Spelling.proper.words t) (hend : atBoundary tail = true) :
    Guard.find? rest ≠ none := by
  have hcode : codeOnly rest = indentOf (codeOnly rest) ++ (t ++ tail) := by
    rw [← hbody, indentOf_append_bodyOf]
  -- Neither the blanks nor the clause hold a parenthesis.
  have hblank : ∀ c ∈ indentOf (codeOnly rest), isBlank c = true := fun c => isBlank_of_mem_indentOf
  have hparen : '(' ∉ indentOf (codeOnly rest) := by
    intro hc
    exact absurd (hblank _ hc) (by decide)
  have hparen' : '(' ∉ t := by
    intro hc
    rcases ht.isGap_or_isWord Spelling.proper.isKeyword_words _ hc with h | h
    · exact absurd h (by decide)
    · exact absurd h (by decide)
  have hregion : Guard.region rest =
      indentOf (codeOnly rest) ++ (t ++ tail.takeWhile fun c => c != '(') := by
    conv => lhs; rw [Guard.region, hcode]
    rw [Guard.takeWhile_noParen hparen, Guard.takeWhile_noParen hparen']
  have hend' := atBoundary_takeWhile (fun c => c != '(') hend
  rw [Guard.find?, hregion]
  refine Guard.search_ne_none ?_ ?_
  · cases hlast : (indentOf (codeOnly rest)).getLast? with
    | none => simp [Guard.afterWord, hlast]
    | some c =>
        have hword := isWord_eq_false (hblank c (List.mem_of_getLast? hlast))
        simp [Guard.afterWord, hlast, hword]
  · rw [(Guard.token?_eq_some_iff _ _ .proper).mpr ⟨t, ht, rfl, hend'⟩]
    exact Option.some_ne_none _

/-- A clause leaves its last word in the code, and with it the letter X. -/
theorem exists_letter_of_find? {guard : Guard} (h : Guard.find? rest = some guard) :
    ∃ c ∈ codeOnly rest, c.toUpper = 'X' := by
  rcases Guard.find?_split h with ⟨before, tok, after, rfl, hs⟩
  have hword : ∃ w ∈ guard.spelling.words, 'X' ∈ w := by
    cases guard.spelling <;> decide
  rcases hword with ⟨w, hw, hx⟩
  rcases hs.first.spells.exists_mem hw hx with ⟨c, hc, hupper⟩
  refine ⟨c, ?_, hupper⟩
  rw [hs.piece.codeOnly_eq]
  exact List.mem_append_right _ (List.mem_append_left _ hc)

theorem no_letter : ∀ w ∈ Spelling.proper.words.dropLast, 'X' ∉ w := by decide

/-- Where a clause follows the head, a clause that is found on the opening
    line is that clause, and it is complete there. -/
theorem clause_of_find? {after t tail : List Char} {guard : Guard}
    (hfind : Guard.find? rest = some guard)
    (hbody : bodyOf (codeOnly rest ++ '\n' :: after) = t ++ tail)
    (ht : Spells Spelling.proper.words t) (hend : atBoundary tail = true) :
    ∃ tail', bodyOf (codeOnly rest) = t ++ tail' ∧ atBoundary tail' = true := by
  rcases exists_letter_of_find? hfind with ⟨x, hx, hupper⟩
  have hxword : isWord x = true := isWord_of_toUpper (by rw [hupper]; decide)
  -- The letter is no blank, so it stands in the body.
  have hxbody : x ∈ bodyOf (codeOnly rest) := by
    rw [← indentOf_append_bodyOf (codeOnly rest)] at hx
    rcases List.mem_append.mp hx with hx | hx
    · have hblank := isBlank_of_mem_indentOf hx
      rw [isBlank_eq_false hxword] at hblank
      cases hblank
    · exact hx
  have hsplit : bodyOf (codeOnly rest) ++ '\n' :: after = t ++ tail := by
    rw [← hbody]
    exact (bodyOf_append_of_ne_nil (List.ne_nil_of_mem hxbody) _).symm
  rcases List.append_eq_append_iff.mp hsplit with ⟨more, hmore, hrest⟩ | ⟨tail', htail, hrest⟩
  · cases more with
    | nil =>
        rw [List.append_nil] at hmore
        exact ⟨[], by rw [List.append_nil, hmore], rfl⟩
    | cons c others =>
        -- A cut inside the clause leaves nothing of its last word before it.
        rw [List.cons_append, List.cons.injEq] at hrest
        rw [hmore, ← hrest.1] at ht
        rcases ht.cut Spelling.proper.isKeyword_words (by decide) x hxbody with hgap | ⟨w, hw, hxw⟩
        · rw [isGap_eq_false hxword] at hgap
          cases hgap
        · rw [hupper] at hxw
          exact absurd hxw (no_letter w hw)
  · refine ⟨tail', htail, ?_⟩
    cases tail' with
    | nil => rfl
    | cons c others =>
        rw [hrest] at hend
        exact hend

/-- The guard of a guarded statement is missed on its opening line exactly if
    the clause is not complete there. -/
theorem guardOf?_eq_none_iff {after : List Char} (hkind : kindOf (bodyOf content) = .createTable)
    (hguarded : beginsGuarded (codeOnly content ++ '\n' :: after) = true) :
    guardOf? (bodyOf content) = none ↔ beginsGuarded (codeOnly content) = false := by
  rcases (kindOf_eq_createTable_iff _).mp hkind with ⟨head, rest, hhead⟩
  rcases beginsGuarded_iff hhead with ⟨g, hg, hiff⟩
  have hline := hiff []
  rw [List.append_nil, List.append_nil] at hline
  rcases (hiff ('\n' :: after)).mp hguarded with ⟨hblank, t, tail, hbody, ht, hend⟩
  rw [guardOf?_of_createHead? hhead, Bool.eq_false_iff, Ne, hline]
  constructor
  · rintro hnone ⟨-, t', tail', hbody', ht', hend'⟩
    exact find?_ne_none hbody' ht' hend' hnone
  · intro hno
    cases hfind : Guard.find? rest with
    | none => rfl
    | some guard =>
        rcases clause_of_find? hfind hbody ht hend with ⟨tail', hbody', hend'⟩
        refine absurd ⟨?_, t, tail', hbody', ht, hend'⟩ hno
        -- The opening line has a character behind the words of its head.
        rw [← List.append_assoc] at hblank
        cases hcode : g ++ codeOnly rest with
        | nil =>
            rcases exists_letter_of_find? hfind with ⟨x, hx, -⟩
            rw [(List.append_eq_nil_iff.mp hcode).2] at hx
            cases hx
        | cons c others =>
            rw [hcode] at hblank
            exact hblank

end OpeningLine

end Statement

/-- A `CREATE TABLE` receives a guard exactly if none is seen, neither on its
    line nor below. -/
theorem Patch.create_insertGuard_iff {rules : Rules} {content : List Char}
    {next : Option (List Char)} (hinsert : rules.insertGuards = true)
    (hkind : Statement.kindOf (bodyOf content) = .createTable) :
    (create rules .code content next).treated.action = .insertGuard ↔
      Statement.guardOf? (bodyOf content) = none ∧ guardBelow? .code content next = none := by
  rcases (Statement.kindOf_eq_createTable_iff _).mp hkind with ⟨head, rest, hhead⟩
  rw [Statement.guardOf?_of_createHead? hhead]
  change (guardCreate rules content (guardBelow? .code content next).isSome).action = _ ↔ _
  rcases guardCreate_cases rules (guardBelow? .code content next).isSome hhead with
    ⟨_, hfind, _, heq⟩ | ⟨_, hfind, _, _, heq⟩ | ⟨_, hfollows, heq⟩ | ⟨hfind, hfollows, _, heq⟩
  · rw [heq, hfind]
    simp [Treated.kept]
  · rw [heq, hfind]
    simp
  · rw [hinsert] at hfollows
    have hsome : (guardBelow? .code content next).isSome = true := by simpa using hfollows
    rcases Option.isSome_iff_exists.mp hsome with ⟨guard, hguard⟩
    rw [heq, hguard]
    simp [Treated.kept]
  · have hnone : guardBelow? .code content next = none := by simpa using hfollows
    rw [heq, hfind, hnone]
    simp

namespace Script

variable {script : Script} {k : Nat} {line : Line}

/-- A line that opens a `CREATE TABLE` in code carries on nothing. -/
theorem turn_of_createTable (rules : Rules) (h : script.body[k]? = some line)
    (hcode : (script.patched rules).stateBefore k = .code)
    (hkind : Statement.kindOf (bodyOf line.content) = .createTable) :
    script.turn rules k line.content =
      Patch.create rules .code line.content (script.body[k + 1]?.map Line.content) := by
  rw [stateBefore_patched] at hcode
  rcases turn_cases rules h with ⟨hidle, -⟩ | ⟨-, table, hdrop, -⟩ | ⟨-, -, heq⟩ |
    ⟨-, table, guard, hguard, -⟩
  · rw [hcode] at hidle
    exact absurd hkind hidle.not_createTable
  · rcases hdrop with ⟨hdrop, -⟩ | ⟨-, hgoes⟩
    · rw [hkind] at hdrop
      cases hdrop
    · -- A `DROP TABLE` is not carried on to a line that begins a statement.
      simp [Statement.continuesDrop, Statement.opens_of_createTable hkind] at hgoes
  · exact heq
  · rw [Statement.kindOf_of_leading? hguard] at hkind
    cases hkind

/-- The code of a span begins with the code of the line it opens on. -/
theorem codeOf_eq {span : Span} (h : span.OpensOn script k line) :
    ∃ after, script.codeOf span = codeOnly line.content ++ '\n' :: after := by
  have hbefore : span.startLine - 1 = k := by
    rw [h.number]
    exact Nat.add_sub_cancel k 1
  have horder := h.order
  rw [h.number] at horder
  have hlines : (script.body.drop k).take (span.endLine - k) =
      line :: (script.body.drop (k + 1)).take (span.endLine - k - 1) := by
    rcases List.getElem?_eq_some_iff.mp h.found with ⟨hlt, hget⟩
    rw [← hget, ← List.getElem_cons_drop hlt, List.take_cons (by omega)]
  refine ⟨codeOfLines (code.advance line.content).last
    ((script.body.drop (k + 1)).take (span.endLine - k - 1)), ?_⟩
  simp only [codeOf, hbefore, h.code, hlines, codeOfLines]
  rfl

/-- A statement whose code begins with `CREATE TABLE IF NOT EXISTS` receives a
    second guard in these layouts and no others: the clause is not complete on
    the opening line, and it does not open the next line after a bare head
    that ends in code. -/
theorem insertGuard_iff {script : Script} {span : Span} {opening : Line}
    (hspan : span ∈ script.spans) (hkind : span.kind = .createTable)
    (hopening : script.body[span.startLine - 1]? = some opening)
    (hcode : (script.patched {}).stateBefore (span.startLine - 1) = .code)
    (hguarded : Statement.beginsGuarded (script.codeOf span) = true) :
    (∃ edit ∈ (script.patch {}).edits,
      edit.line = span.startLine ∧ edit.action = .insertGuard) ↔
    Statement.beginsGuarded (codeOnly opening.content) = false ∧
      ¬ (Statement.isBareHead (bodyOf opening.content) = true ∧
        (code.advance opening.content).last = .code ∧
        ∃ next guard, script.body[span.startLine]? = some next ∧
          Guard.leading? next.content = some guard) := by
  rcases exists_opensOn hspan with ⟨k, line, hopens⟩
  have hbefore : span.startLine - 1 = k := by
    rw [hopens.number]
    exact Nat.add_sub_cancel k 1
  rw [hbefore] at hopening hcode
  have hline : line = opening := Option.some.inj (hopens.found.symm.trans hopening)
  subst hline
  rw [hopens.kind] at hkind
  rcases codeOf_eq hopens with ⟨after, hafter⟩
  rw [hafter] at hguarded
  -- What the opening line does not show is left to the line below it.
  have hbelow : Patch.guardBelow? .code line.content (script.body[k + 1]?.map Line.content) = none ↔
      ¬ (Statement.isBareHead (bodyOf line.content) = true ∧
        (code.advance line.content).last = .code ∧
        ∃ next guard, script.body[k + 1]? = some next ∧
          Guard.leading? next.content = some guard) := by
    rw [Option.eq_none_iff_forall_ne_some]
    simp only [ne_eq, Patch.guardBelow?_eq_some_iff, Option.bind_eq_some_iff,
      Option.map_eq_some_iff]
    constructor
    · rintro hno ⟨hbare, hlast, next, guard, hnext, hguard⟩
      exact hno guard ⟨hbare, hlast, _, ⟨next, hnext, rfl⟩, hguard⟩
    · rintro hno guard ⟨hbare, hlast, _, ⟨next, hnext, rfl⟩, hguard⟩
      exact hno ⟨hbare, hlast, next, guard, hnext, hguard⟩
  rw [hopens.number, exists_edit_iff {} hopening Action.noConfusion,
    turn_of_createTable {} hopening hcode hkind, Patch.create_insertGuard_iff rfl hkind,
    Statement.guardOf?_eq_none_iff hkind hguarded, hbelow]

/-- The clause on the line right below a bare head is seen. -/
theorem insertGuard_iff_below :
    ¬ ∃ edit ∈ ((Script.mk "CREATE TABLE\nIF NOT EXISTS t (id INT);\n".toList).patch {}).edits,
      edit.line = 1 ∧ edit.action = .insertGuard := by
  intro hedit
  have hiff := @insertGuard_iff ⟨"CREATE TABLE\nIF NOT EXISTS t (id INT);\n".toList⟩
    ⟨.createTable, 1, 2, 0, 39, [], some ['t'], some .proper, true⟩
    ⟨"CREATE TABLE".toList, .lf⟩ (by decide) rfl (by decide) (by decide) (by decide)
  refine (hiff.mp hedit).2 ⟨by decide, by decide, ?_⟩
  exact ⟨⟨"IF NOT EXISTS t (id INT);".toList, .lf⟩, ⟨.proper, 0, 13⟩, by decide, by decide⟩

/-- The clause below a blank line is not seen, and the statement receives a
    second one. -/
theorem guard_doubled :
    ¬ ∀ (script : Script), ∀ span ∈ script.spans, span.kind = .createTable →
      script.stateBefore (span.startLine - 1) = .code →
      (script.patched {}).stateBefore (span.startLine - 1) = .code →
      Statement.beginsGuarded (script.codeOf span) = true →
      ∀ edit ∈ (script.patch {}).edits,
        edit.line = span.startLine → edit.action ≠ .insertGuard := by
  intro h
  have hnone := h ⟨"CREATE TABLE\n\nIF NOT EXISTS t (id INT);\n".toList⟩
    ⟨.createTable, 1, 3, 0, 40, [], none, none, true⟩
    (by decide) rfl (by decide) (by decide) (by decide)
  exact absurd hnone (by decide)

end Script

end Rerun
