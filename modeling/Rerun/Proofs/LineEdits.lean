import Rerun.Patch
import Rerun.Proofs.Guards
import Rerun.Proofs.Lines

/-!
# What the Edits Leave Behind

The three edits of a line, and what a second look at the edited line finds.

Of each edit three things have to be known, and they are proved here once so
that the pass over the lines never has to open an edit again. The edited
content stands in the place of the old one (`Replaces`), so the lines of the
script are found again. Its effect on the lexical state is the old one, or
none where the line was commented out. And the edit has done its work: a line
that was commented out is a comment, a `CREATE TABLE` has a proper guard, and
a guard that opens a line is proper.

The statements a line can open are told apart by its first letter, which is
enough to see that no edit turns one kind of line into another.

## Main definitions

* `Statement.createWords`: The words of a `CREATE TABLE`.
* `Statement.IsGuarded`: A `CREATE TABLE` with a proper guard on its line.
* `lead`, `trail`: The blanks around an inserted guard.

## Theorems

* `Statement.createHead?_eq_some_iff`: How a line is split after its head.
* `Statement.kindOf_eq_createTable_iff`: A line with a head opens a
  `CREATE TABLE`.
* `Statement.initial_of_dropTable`, `Statement.initial_of_createTable`,
  `Statement.initial_of_leading?`: The first letters.
* `Statement.opens_of_createTable`, `Statement.opens_of_dropTable`: Lines that
  begin a statement.
* `Statement.kindOf_of_isComment`, `Statement.kindOf_of_leading?`: Lines that
  open no statement.
* `isComment_commentOut`, `replaces_commentOut`, `advance_commentOut`: A line
  that was commented out.
* `guardCreate_cases`: The ways in which the guard rules treat a line.
* `isGuarded_guardCreate`, `guardCreate_of_isGuarded`: The guard rules leave
  a proper guard, and they leave it alone.
* `replaces_guardCreate`, `advance_guardCreate`, `indentOf_guardCreate`: A line
  after the guard rules.
* `mendLeading_cases`, `mendLeading_action`, `replaces_mendLeading`,
  `advance_mendLeading`, `indentOf_mendLeading`: A line that a guard opens.
-/

namespace Rerun

open Text Keyword LexState

namespace Statement

/-- The words of a `CREATE TABLE`. -/
def createWords : List (List Char) :=
  ["CREATE".toList, "TABLE".toList]

theorem isKeyword_createWords : ∀ w ∈ createWords, IsKeyword w := by decide

theorem isKeyword_dropWords : ∀ w ∈ ["DROP".toList, "TABLE".toList], IsKeyword w := by decide

/-- The head of a `CREATE TABLE` is a spelling of its words and the ASCII
    blanks after it. -/
theorem createHead?_eq_some_iff (body head rest : List Char) :
    createHead? body = some (head, rest) ↔ body = head ++ rest ∧
      ∃ p g, Spells createWords p ∧ Gaps g ∧ head = p ++ g ∧ rest.head?.any isGap = false ∧
        atBoundary (g ++ rest) = true := by
  have hphrase : ∀ r, phrase? ["CREATE".toList, "TABLE".toList] body = some r ↔
      ∃ p, Spells createWords p ∧ body = p ++ r := fun r =>
    phrase?_eq_some_iff isKeyword_createWords body r
  simp only [createHead?, afterCreate?, Option.map_eq_some_iff, Option.bind_eq_bind,
    Option.bind_eq_some_iff, hphrase, Prod.mk.injEq]
  constructor
  · rintro ⟨tail, ⟨r, ⟨p, hp, rfl⟩, hif⟩, htaken, rfl⟩
    split at hif
    · rename_i hend
      cases hif
      have hg : r.takeWhile isGap ++ r.dropWhile isGap = r := List.takeWhile_append_dropWhile
      have hbody : p ++ r = (p ++ r.takeWhile isGap) ++ r.dropWhile isGap := by
        rw [List.append_assoc, hg]
      have hhead : head = p ++ r.takeWhile isGap := by
        rw [← htaken, taken, hbody, List.length_append, Nat.add_sub_cancel, List.take_left]
      refine ⟨by rw [hhead]; exact hbody, p, r.takeWhile isGap, hp,
        fun c hc => List.mem_takeWhile_imp hc, hhead, head?_dropWhile isGap r, ?_⟩
      rw [hg]
      exact hend
    · cases hif
  · rintro ⟨hbody, p, g, hp, hg, rfl, hrest, hend⟩
    refine ⟨rest, ⟨g ++ rest, ⟨p, hp, by rw [hbody, List.append_assoc]⟩, ?_⟩, ?_, rfl⟩
    · rw [if_pos hend, dropWhile_gaps hg hrest]
    · rw [taken, hbody, List.length_append, Nat.add_sub_cancel, List.take_left]

theorem initial_of_createHead? {body head rest : List Char}
    (h : createHead? body = some (head, rest)) : Initial 'C' body := by
  rcases (createHead?_eq_some_iff _ _ _).mp h with ⟨rfl, p, g, hp, -, rfl, -⟩
  rw [List.append_assoc]
  exact hp.initial isKeyword_createWords rfl (g ++ rest)

/-- A line that opens a `DROP TABLE` begins with a spelling of its words. -/
theorem spells_of_dropTable {body : List Char} (h : kindOf body = .dropTable) :
    ∃ p rest, Spells ["DROP".toList, "TABLE".toList] p ∧ body = p ++ rest := by
  have hdrop : isDrop body = true := by
    unfold kindOf at h
    split at h
    · assumption
    · split at h <;> cases h
  rw [isDrop, Option.any_eq_true] at hdrop
  rcases hdrop with ⟨rest, hrest, -⟩
  rcases (phrase?_eq_some_iff isKeyword_dropWords _ _).mp hrest with ⟨p, hp, hbody⟩
  exact ⟨p, rest, hp, hbody⟩

/-- The first letter of a line that opens a `DROP TABLE`. -/
theorem initial_of_dropTable {body : List Char} (h : kindOf body = .dropTable) :
    Initial 'D' body := by
  rcases spells_of_dropTable h with ⟨p, rest, hp, rfl⟩
  exact hp.initial isKeyword_dropWords rfl rest

/-- A line opens a `CREATE TABLE` exactly if it has the head of one. -/
theorem kindOf_eq_createTable_iff (body : List Char) :
    kindOf body = .createTable ↔ ∃ head rest, createHead? body = some (head, rest) := by
  constructor
  · intro h
    unfold kindOf at h
    split at h
    · cases h
    · split at h
      · rename_i hsome
        rcases Option.isSome_iff_exists.mp hsome with ⟨⟨head, rest⟩, hhead⟩
        exact ⟨head, rest, hhead⟩
      · cases h
  · rintro ⟨head, rest, hhead⟩
    have hdrop : isDrop body = false := by
      rw [Bool.eq_false_iff]
      intro hd
      have hkind : kindOf body = .dropTable := by rw [kindOf, if_pos hd]
      have hletter := (initial_of_createHead? hhead).unique (initial_of_dropTable hkind)
      exact absurd hletter (by decide)
    rw [kindOf, hdrop, hhead]
    rfl

theorem initial_of_createTable {body : List Char} (h : kindOf body = .createTable) :
    Initial 'C' body := by
  rcases (kindOf_eq_createTable_iff body).mp h with ⟨head, rest, hhead⟩
  exact initial_of_createHead? hhead

/-- A line that begins with an opener and another word begins a statement. -/
theorem opens_of_spells {w v p : List Char} (hw : w ∈ openers) (h : Spells [w, v] p)
    (rest : List Char) : opens (p ++ rest) = true := by
  rcases spells_cons_iff.mp h with ⟨x, gap, y, hx, hne, hgap, -, rfl⟩
  have hword : word? w (x ++ (gap ++ y) ++ rest) = some (gap ++ (y ++ rest)) :=
    (word?_eq_some_iff _ _ _).mpr ⟨x, hx, by simp only [List.append_assoc]⟩
  have hend : atBoundary (gap ++ (y ++ rest)) = true := by
    cases gap with
    | nil => exact absurd rfl hne
    | cons c more =>
        have hc := isWord_eq_false (isBlank_of_isGap (hgap c List.mem_cons_self))
        simp [atBoundary, hc]
  rw [opens, Bool.or_eq_true, List.any_eq_true]
  refine Or.inr ⟨w, hw, ?_⟩
  rw [hword]
  exact hend

/-- A `CREATE TABLE` begins a statement of its own. -/
theorem opens_of_createTable {body : List Char} (h : kindOf body = .createTable) :
    opens body = true := by
  rcases (kindOf_eq_createTable_iff _).mp h with ⟨head, rest, hhead⟩
  rcases (createHead?_eq_some_iff _ _ _).mp hhead with ⟨rfl, p, g, hp, -, rfl, -⟩
  rw [List.append_assoc]
  exact opens_of_spells (by decide) hp (g ++ rest)

/-- A `DROP TABLE` begins a statement of its own. -/
theorem opens_of_dropTable {body : List Char} (h : kindOf body = .dropTable) :
    opens body = true := by
  rcases spells_of_dropTable h with ⟨p, rest, hp, rfl⟩
  exact opens_of_spells (by decide) hp rest

/-- The first letter of a line that a guard opens. -/
theorem initial_of_leading? {line : List Char} {guard : Guard}
    (h : Guard.leading? line = some guard) : Initial 'I' (bodyOf line) := by
  rcases (Guard.leading?_eq_some_iff _ _).mp h with ⟨t, tail, hbody, ht, -⟩
  rw [hbody]
  cases hspelling : guard.spelling with
  | proper =>
      rw [hspelling] at ht
      exact ht.initial Spelling.proper.isKeyword_words rfl tail
  | typo =>
      rw [hspelling] at ht
      exact ht.initial Spelling.typo.isKeyword_words rfl tail

/-- A line comment opens no statement. -/
theorem kindOf_of_isComment {body : List Char} (h : isComment body = true) :
    kindOf body = .other := by
  have hdash : Initial '-' body := by
    cases body with
    | nil => cases h
    | cons c tail =>
        simp only [isComment, startsWith, commentMarker, List.isPrefixOf, Bool.and_eq_true,
          beq_iff_eq] at h
        exact ⟨c, tail, rfl, by rw [← h.1]; rfl⟩
  cases hkind : kindOf body with
  | other => rfl
  | dropTable => exact absurd (hdash.unique (initial_of_dropTable hkind)) (by decide)
  | createTable => exact absurd (hdash.unique (initial_of_createTable hkind)) (by decide)

/-- A line that a guard opens does not open a statement. -/
theorem kindOf_of_leading? {line : List Char} {guard : Guard}
    (h : Guard.leading? line = some guard) : kindOf (bodyOf line) = .other := by
  have hletter := initial_of_leading? h
  cases hkind : kindOf (bodyOf line) with
  | other => rfl
  | dropTable => exact absurd (hletter.unique (initial_of_dropTable hkind)) (by decide)
  | createTable => exact absurd (hletter.unique (initial_of_createTable hkind)) (by decide)

/-- A `CREATE TABLE` with a proper guard on its opening line. -/
def IsGuarded (body : List Char) : Prop :=
  ∃ guard, guardOf? body = some guard ∧ guard.spelling = .proper

theorem guardOf?_of_createHead? {body head rest : List Char}
    (h : createHead? body = some (head, rest)) : guardOf? body = Guard.find? rest := by
  rw [guardOf?, h, Option.bind_some]

theorem kindOf_of_isGuarded {body : List Char} (h : IsGuarded body) :
    kindOf body = .createTable := by
  rcases h with ⟨guard, hguard, -⟩
  rw [guardOf?, Option.bind_eq_some_iff] at hguard
  rcases hguard with ⟨⟨head, rest⟩, hhead, -⟩
  exact (kindOf_eq_createTable_iff body).mpr ⟨head, rest, hhead⟩

/-- A bare head has no guard on its line. -/
theorem guardOf?_of_isBareHead {body : List Char} (h : isBareHead body = true) :
    guardOf? body = none := by
  rw [isBareHead, Option.any_eq_true] at h
  rcases h with ⟨⟨head, rest⟩, hhead, hblank⟩
  rw [guardOf?_of_createHead? hhead]
  cases hfind : Guard.find? rest with
  | none => rfl
  | some guard =>
      -- A clause would leave a letter in the blanked rest.
      rcases Guard.find?_split hfind with ⟨before, tok, after, rfl, hs⟩
      rcases hs.first.spells.head guard.spelling.isKeyword_words with ⟨-, -, c, tail, htok, -, hc⟩
      have hmem : c ∈ codeOnly (before ++ (tok ++ after)) := by
        rw [hs.piece.codeOnly_eq, htok]
        simp
      have hcb := List.all_eq_true.mp hblank c hmem
      rw [isBlank_eq_false hc] at hcb
      cases hcb

theorem not_isBareHead_of_isGuarded {body : List Char} (h : IsGuarded body) :
    isBareHead body = false := by
  rw [Bool.eq_false_iff]
  intro hbare
  rcases h with ⟨guard, hguard, -⟩
  rw [guardOf?_of_isBareHead hbare] at hguard
  cases hguard

end Statement

/-- A piece in the middle of a content may be replaced by one that holds no
    line feed, does not end in a carriage return and does not begin with a
    byte order mark. -/
theorem replaces_middle (a x m b : List Char) (hne : m ≠ []) (hfeed : '\n' ∉ m)
    (hlast : m.getLast? ≠ some '\r') (hmark : m.head? ≠ some byteOrderMark) :
    Replaces (a ++ (x ++ b)) (a ++ (m ++ b)) := by
  have hmiddle : Replaces (x ++ b) (m ++ b) := by
    refine ⟨?_, ?_, ?_, ?_⟩
    · intro h
      rcases List.mem_append.mp h with h | h
      · exact absurd h hfeed
      · exact List.mem_append_right x h
    · intro h
      rw [List.getLast?_append] at h ⊢
      cases hb : b.getLast? with
      | none => rw [hb] at h; exact absurd h hlast
      | some c => rw [hb] at h; exact h
    · intro h
      exact absurd (List.append_eq_nil_iff.mp h).1 hne
    · intro h
      cases m with
      | nil => exact absurd rfl hne
      | cons c more => exact absurd h hmark
  exact hmiddle.append_left a

theorem plain_indentOf (content : List Char) : ∀ c ∈ indentOf content, plain c = true :=
  (bland_indentOf content).plain

/-- A line that was commented out is its indentation, the marker and its
    body. -/
theorem commentOut_eq (content : List Char) :
    commentOut content = indentOf content ++ (['-', '-', ' '] ++ bodyOf content) := by
  simp only [commentOut, Statement.commentMarker, List.append_assoc, List.cons_append,
    List.nil_append]

theorem bodyOf_commentOut (content : List Char) :
    bodyOf (commentOut content) = ['-', '-', ' '] ++ bodyOf content := by
  rw [commentOut_eq]
  exact bodyOf_append (fun c => isBlank_of_mem_indentOf) rfl

theorem isComment_commentOut (content : List Char) :
    Statement.isComment (bodyOf (commentOut content)) = true := by
  rw [bodyOf_commentOut]
  rfl

theorem replaces_commentOut (content : List Char) : Replaces content (commentOut content) := by
  rw [commentOut_eq]
  have h := replaces_middle (indentOf content) [] ['-', '-', ' '] (bodyOf content)
    (by decide) (by decide) (by decide) (by decide)
  rwa [List.nil_append, indentOf_append_bodyOf] at h

/-- Commenting out a line that starts in code hides all of it. -/
theorem advance_commentOut (content : List Char) :
    (code.advance (commentOut content)).last = code := by
  rw [commentOut_eq]
  change (walk code false _).2 = code
  rw [walk_plain_append (plain_indentOf content)]
  rfl

section GuardCreate

variable {content head rest : List Char}

/-- The four ways in which the guard rules treat a line with a head. -/
theorem guardCreate_cases (rules : Rules) (follows : Bool)
    (h : Statement.createHead? (bodyOf content) = some (head, rest)) :
    (∃ guard, Guard.find? rest = some guard ∧
      ¬ (guard.spelling = .typo ∧ rules.fixTypos = true) ∧
      guardCreate rules content follows = .kept content) ∨
    (∃ guard, Guard.find? rest = some guard ∧ guard.spelling = .typo ∧ rules.fixTypos = true ∧
      guardCreate rules content follows =
        ⟨.fixTypo, indentOf content ++ head ++ guard.mend rest⟩) ∨
    (Guard.find? rest = none ∧ (follows = true ∨ rules.insertGuards = false) ∧
      guardCreate rules content follows = .kept content) ∨
    (Guard.find? rest = none ∧ follows = false ∧ rules.insertGuards = true ∧
      guardCreate rules content follows =
        ⟨.insertGuard, insertGuard (indentOf content) head rest⟩) := by
  cases hfind : Guard.find? rest with
  | some guard =>
      by_cases htypo : guard.spelling = .typo ∧ rules.fixTypos = true
      · refine Or.inr (Or.inl ⟨guard, rfl, htypo.1, htypo.2, ?_⟩)
        simp only [guardCreate, h, hfind, if_pos htypo]
      · refine Or.inl ⟨guard, rfl, htypo, ?_⟩
        simp only [guardCreate, h, hfind, if_neg htypo]
  | none =>
      by_cases hkeep : follows = true ∨ ¬ rules.insertGuards = true
      · refine Or.inr (Or.inr (Or.inl ⟨rfl, ?_, ?_⟩))
        · rwa [Bool.not_eq_true] at hkeep
        · simp only [guardCreate, h, hfind, if_pos hkeep]
      · refine Or.inr (Or.inr (Or.inr ⟨rfl, ?_, ?_, ?_⟩))
        · exact Bool.eq_false_iff.mpr fun hf => hkeep (Or.inl hf)
        · exact Decidable.of_not_not fun hi => hkeep (Or.inr hi)
        · simp only [guardCreate, h, hfind, if_neg hkeep]

/-- A line with a head is its indentation, the head and the rest. -/
theorem content_eq (h : Statement.createHead? (bodyOf content) = some (head, rest)) :
    content = indentOf content ++ (head ++ rest) := by
  rw [← ((Statement.createHead?_eq_some_iff _ _ _).mp h).1, indentOf_append_bodyOf]

theorem bland_head (h : Statement.createHead? (bodyOf content) = some (head, rest)) :
    Bland head := by
  rcases (Statement.createHead?_eq_some_iff _ _ _).mp h with ⟨-, p, g, hp, hg, rfl, -⟩
  refine (hp.bland Statement.isKeyword_createWords).append ?_
  exact fun c hc => Or.inl (isBlank_of_isGap (hg c hc))

theorem plain_head (h : Statement.createHead? (bodyOf content) = some (head, rest)) :
    ∀ c ∈ head, plain c = true :=
  (bland_head h).plain

/-- Indentation and head have no effect on their line. -/
theorem advance_after_head (h : Statement.createHead? (bodyOf content) = some (head, rest))
    (after : List Char) :
    code.advance (indentOf content ++ (head ++ after)) = code.advance after := by
  rw [advance_bland_append (bland_indentOf content), advance_bland_append (bland_head h)]

theorem head?_after_head (h : Statement.createHead? (bodyOf content) = some (head, rest))
    (after : List Char) : (head ++ after).head?.any isBlank = false := by
  rcases (Statement.createHead?_eq_some_iff _ _ _).mp h with ⟨-, p, g, hp, -, rfl, -⟩
  rcases hp.head Statement.isKeyword_createWords with ⟨-, -, c, tail, rfl, -, hword⟩
  exact isBlank_eq_false hword

theorem bodyOf_after_head (h : Statement.createHead? (bodyOf content) = some (head, rest))
    (after : List Char) : bodyOf (indentOf content ++ (head ++ after)) = head ++ after :=
  bodyOf_append (fun _ => isBlank_of_mem_indentOf) (head?_after_head h after)

theorem indentOf_after_head (h : Statement.createHead? (bodyOf content) = some (head, rest))
    (after : List Char) : indentOf (indentOf content ++ (head ++ after)) = indentOf content :=
  indentOf_append (fun _ => isBlank_of_mem_indentOf) (head?_after_head h after)

/-- The head is found again after the guard behind it was mended. -/
theorem createHead?_mend (h : Statement.createHead? (bodyOf content) = some (head, rest))
    {guard : Guard} (hfind : Guard.find? rest = some guard) :
    Statement.createHead? (head ++ guard.mend rest) = some (head, guard.mend rest) := by
  rcases (Statement.createHead?_eq_some_iff _ _ _).mp h with ⟨-, p, g, hp, hg, rfl, hgap, hend⟩
  rcases Guard.find?_split hfind with ⟨before, tok, after, rfl, hs⟩
  rw [hs.mend_eq]
  refine (Statement.createHead?_eq_some_iff _ _ _).mpr ⟨rfl, p, g, hp, hg, rfl, ?_, ?_⟩
  · cases before with
    | nil => rfl
    | cons c more => exact hgap
  · cases g with
    | cons c more => exact hend
    | nil =>
        cases before with
        | cons c more => exact hend
        | nil =>
            -- The clause cannot stand right behind the last letter of the head.
            exfalso
            rcases hs.first.spells.head guard.spelling.isKeyword_words with
              ⟨-, -, c, tail, htok, -, hc⟩
            have hzero : (codeOnly tok)[0]? = some c := by rw [htok]; rfl
            rcases closed_of_codeOnly hzero hc with ⟨a, b, ha, rfl, -⟩
            rw [List.eq_nil_of_length_eq_zero ha] at hend
            simp [atBoundary, hc] at hend

/-- The blank before an inserted guard, where the head has none. -/
def lead (head : List Char) : List Char :=
  if head.getLast?.any isBlank then [] else [' ']

/-- The blank after an inserted guard, where something follows. -/
def trail (rest : List Char) : List Char :=
  if rest.isEmpty then [] else [' ']

theorem insertGuard_eq (indent head rest : List Char) :
    insertGuard indent head rest =
      indent ++ (head ++ (lead head ++ (Guard.clause ++ (trail rest ++ rest)))) := by
  simp only [insertGuard, lead, trail, List.append_assoc]

theorem gaps_lead (head : List Char) : Gaps (lead head) := by
  intro c hc
  unfold lead at hc
  split at hc
  · cases hc
  · rw [List.mem_singleton.mp hc]
    decide

theorem bland_lead (head : List Char) : Bland (lead head) :=
  fun c hc => Or.inl (isBlank_of_isGap (gaps_lead head c hc))

theorem bland_trail (rest : List Char) : Bland (trail rest) := by
  intro c hc
  unfold trail at hc
  split at hc
  · cases hc
  · rw [List.mem_singleton.mp hc]
    exact Or.inl rfl

/-- What an insertion puts between head and rest is one of four texts. -/
theorem inserted_cases {P : List Char → Prop}
    (h : ∀ a ∈ [[], [' ']], ∀ b ∈ [[], [' ']], P (a ++ (Guard.clause ++ b)))
    (head rest : List Char) : P (lead head ++ (Guard.clause ++ trail rest)) := by
  refine h _ ?_ _ ?_
  · unfold lead
    split <;> simp
  · unfold trail
    split <;> simp

/-- The head and the blank before the guard are the head of the new line. -/
theorem createHead?_insert (h : Statement.createHead? (bodyOf content) = some (head, rest)) :
    Statement.createHead? (head ++ (lead head ++ (Guard.clause ++ (trail rest ++ rest)))) =
      some (head ++ lead head, Guard.clause ++ (trail rest ++ rest)) := by
  rcases (Statement.createHead?_eq_some_iff _ _ _).mp h with ⟨-, p, g, hp, hg, rfl, -⟩
  refine (Statement.createHead?_eq_some_iff _ _ _).mpr ⟨by simp only [List.append_assoc], p,
    g ++ lead (p ++ g), hp, ?_, by rw [List.append_assoc], rfl, ?_⟩
  · intro c hc
    rcases List.mem_append.mp hc with hc | hc
    · exact hg c hc
    · exact gaps_lead _ c hc
  · -- There is a blank behind the last letter of the head now.
    cases g with
    | cons c more =>
        have hc := isWord_eq_false (isBlank_of_isGap (hg c List.mem_cons_self))
        simp [atBoundary, hc]
    | nil =>
        rcases hp.last Statement.isKeyword_createWords with ⟨b, c, rfl, hc⟩
        have hlead : lead (b ++ [c] ++ []) = [' '] := by
          simp [lead, isBlank_eq_false hc]
        rw [hlead]
        rfl

theorem find?_insert (rest : List Char) :
    Guard.find? (Guard.clause ++ (trail rest ++ rest)) =
      some ⟨.proper, 0, Guard.clause.length⟩ := by
  refine Guard.find?_clause ?_
  cases rest with
  | nil => rfl
  | cons c more =>
      have hspace : ∀ d ∈ [' '], plain d = true := List.all_eq_true.mp (by decide)
      rw [show trail (c :: more) = [' '] from rfl, Guard.region,
        codeOnly_closed_append (closed_of_plain hspace).1 (cutAt_of_plain hspace _),
        codeOnly_of_plain hspace, Guard.takeWhile_noParen (by decide)]
      rfl

/-- A line that the guard rules have changed is properly guarded. -/
theorem isGuarded_guardCreate {rules : Rules} {follows : Bool}
    (h : Statement.createHead? (bodyOf content) = some (head, rest))
    (hne : (guardCreate rules content follows).action ≠ .keep) :
    Statement.IsGuarded (bodyOf (guardCreate rules content follows).text) := by
  rcases guardCreate_cases rules follows h with ⟨_, _, _, heq⟩ | ⟨guard, hfind, _, _, heq⟩ |
    ⟨_, _, heq⟩ | ⟨_, _, _, heq⟩
  · rw [heq] at hne
    exact absurd rfl hne
  · rw [heq, List.append_assoc, bodyOf_after_head h]
    have hguard := Statement.guardOf?_of_createHead? (createHead?_mend h hfind)
    exact ⟨_, hguard.trans (Guard.find?_mend hfind), rfl⟩
  · rw [heq] at hne
    exact absurd rfl hne
  · rw [heq, insertGuard_eq, bodyOf_after_head h]
    have hguard := Statement.guardOf?_of_createHead? (createHead?_insert h)
    exact ⟨_, hguard.trans (find?_insert rest), rfl⟩

theorem guardCreate_of_keep {rules : Rules} {follows : Bool}
    (h : Statement.createHead? (bodyOf content) = some (head, rest))
    (hkeep : (guardCreate rules content follows).action = .keep) :
    guardCreate rules content follows = .kept content := by
  rcases guardCreate_cases rules follows h with ⟨_, _, _, heq⟩ | ⟨_, _, _, _, heq⟩ |
    ⟨_, _, heq⟩ | ⟨_, _, _, heq⟩
  · exact heq
  · rw [heq] at hkeep
    cases hkeep
  · exact heq
  · rw [heq] at hkeep
    cases hkeep

/-- After the guard rules a line still opens a `CREATE TABLE`. -/
theorem kindOf_guardCreate (rules : Rules) (follows : Bool)
    (h : Statement.kindOf (bodyOf content) = .createTable) :
    Statement.kindOf (bodyOf (guardCreate rules content follows).text) = .createTable := by
  rcases (Statement.kindOf_eq_createTable_iff _).mp h with ⟨head, rest, hhead⟩
  by_cases hkeep : (guardCreate rules content follows).action = .keep
  · rw [guardCreate_of_keep hhead hkeep]
    exact h
  · exact Statement.kindOf_of_isGuarded (isGuarded_guardCreate hhead hkeep)

/-- The guard rules leave the indentation of a line. -/
theorem indentOf_guardCreate (rules : Rules) (content : List Char) (follows : Bool) :
    indentOf (guardCreate rules content follows).text = indentOf content := by
  cases h : Statement.createHead? (bodyOf content) with
  | none => simp only [guardCreate, h, Treated.kept]
  | some split =>
      rcases split with ⟨head, rest⟩
      rcases guardCreate_cases rules follows h with ⟨_, _, _, heq⟩ | ⟨guard, _, _, _, heq⟩ |
        ⟨_, _, heq⟩ | ⟨_, _, _, heq⟩
      · rw [heq]
        rfl
      · rw [heq, List.append_assoc]
        exact indentOf_after_head h (guard.mend rest)
      · rw [heq]
        rfl
      · rw [heq, insertGuard_eq]
        exact indentOf_after_head h _

/-- A properly guarded line is left as it is. -/
theorem guardCreate_of_isGuarded (rules : Rules) (follows : Bool)
    (h : Statement.IsGuarded (bodyOf content)) :
    guardCreate rules content follows = .kept content := by
  rcases h with ⟨guard, hguard, hproper⟩
  rw [Statement.guardOf?, Option.bind_eq_some_iff] at hguard
  rcases hguard with ⟨⟨head, rest⟩, hhead, hfind⟩
  simp only at hfind
  have hno : ¬ (guard.spelling = .typo ∧ rules.fixTypos = true) := by
    rw [hproper]
    rintro ⟨h, -⟩
    cases h
  simp only [guardCreate, hhead, hfind, if_neg hno]

/-- The guard rules do not move the edges of a line. -/
theorem replaces_guardCreate (rules : Rules) (content : List Char) (follows : Bool) :
    Replaces content (guardCreate rules content follows).text := by
  cases h : Statement.createHead? (bodyOf content) with
  | none =>
      have heq : guardCreate rules content follows = .kept content := by
        simp only [guardCreate, h]
      rw [heq]
      exact Replaces.refl content
  | some split =>
      rcases split with ⟨head, rest⟩
      rcases guardCreate_cases rules follows h with ⟨_, _, _, heq⟩ | ⟨guard, hfind, _, _, heq⟩ |
        ⟨_, _, heq⟩ | ⟨_, _, _, heq⟩
      · rw [heq]
        exact Replaces.refl content
      · rcases Guard.find?_split hfind with ⟨before, tok, after, rfl, hs⟩
        have hmid := replaces_middle (indentOf content ++ (head ++ before)) tok Guard.clause after
          (by decide) (by decide) (by decide) (by decide)
        have hold : indentOf content ++ (head ++ before) ++ (tok ++ after) = content := by
          simpa only [List.append_assoc] using (content_eq h).symm
        rw [hold] at hmid
        rw [heq, hs.mend_eq]
        simpa only [List.append_assoc] using hmid
      · rw [heq]
        exact Replaces.refl content
      · have hmid := replaces_middle (indentOf content ++ head) []
          (lead head ++ (Guard.clause ++ trail rest)) rest
          (inserted_cases (P := fun m => m ≠ []) (by decide) head rest)
          (inserted_cases (P := fun m => '\n' ∉ m) (by decide) head rest)
          (inserted_cases (P := fun m => m.getLast? ≠ some '\r') (by decide) head rest)
          (inserted_cases (P := fun m => m.head? ≠ some byteOrderMark) (by decide) head rest)
        have hold : indentOf content ++ head ++ ([] ++ rest) = content := by
          rw [List.nil_append, List.append_assoc]
          exact (content_eq h).symm
        rw [hold] at hmid
        rw [heq, insertGuard_eq]
        simpa only [List.append_assoc] using hmid

/-- The guard rules do not change the effect of a line. -/
theorem advance_guardCreate (rules : Rules) (content : List Char) (follows : Bool) :
    code.advance (guardCreate rules content follows).text = code.advance content := by
  cases h : Statement.createHead? (bodyOf content) with
  | none => simp only [guardCreate, h, Treated.kept]
  | some split =>
      rcases split with ⟨head, rest⟩
      have hold : code.advance content = code.advance rest := by
        have hafter := advance_after_head h rest
        rwa [← content_eq h] at hafter
      rcases guardCreate_cases rules follows h with ⟨_, _, _, heq⟩ | ⟨guard, hfind, _, _, heq⟩ |
        ⟨_, _, heq⟩ | ⟨_, _, _, heq⟩
      · rw [heq]; rfl
      · rw [heq, List.append_assoc, advance_after_head h, Guard.advance_mend hfind, hold]
      · rw [heq]; rfl
      · -- The guard and the blanks around it are bland text.
        have hbland : Bland (lead head ++ (Guard.clause ++ trail rest)) :=
          (bland_lead head).append (Guard.bland_clause.append (bland_trail rest))
        have hassoc : lead head ++ (Guard.clause ++ (trail rest ++ rest))
            = lead head ++ (Guard.clause ++ trail rest) ++ rest := by
          simp only [List.append_assoc]
        rw [heq, insertGuard_eq, advance_after_head h, hassoc, advance_bland_append hbland, hold]

/-- The guard rules comment nothing out. -/
theorem guardCreate_ne_commentOut (rules : Rules) (content : List Char) (follows : Bool) :
    (guardCreate rules content follows).action ≠ .commentOut := by
  unfold guardCreate
  intro h
  split at h
  · cases h
  · split at h
    · split at h <;> cases h
    · split at h <;> cases h

end GuardCreate

/-- A guard that opens a line is mended, or the line is left as it is. -/
theorem mendLeading_cases (rules : Rules) {content : List Char} {guard : Guard}
    (h : Guard.leading? content = some guard) :
    (¬ (guard.spelling = .typo ∧ rules.fixTypos = true) ∧
      mendLeading rules content = .kept content) ∨
    (guard.spelling = .typo ∧ rules.fixTypos = true ∧
      mendLeading rules content = ⟨.fixTypo, guard.mend content⟩) := by
  by_cases htypo : guard.spelling = .typo ∧ rules.fixTypos = true
  · exact Or.inr ⟨htypo.1, htypo.2, by simp only [mendLeading, h, if_pos htypo]⟩
  · exact Or.inl ⟨htypo, by simp only [mendLeading, h, if_neg htypo]⟩

theorem mendLeading_of_none (rules : Rules) {content : List Char}
    (h : Guard.leading? content = none) : mendLeading rules content = .kept content := by
  simp only [mendLeading, h]

/-- A guard that opens a line is left or mended, and nothing else is done. -/
theorem mendLeading_action (rules : Rules) (content : List Char) :
    (mendLeading rules content).action = .keep ∨ (mendLeading rules content).action = .fixTypo := by
  unfold mendLeading
  split
  · split
    · exact Or.inr rfl
    · exact Or.inl rfl
  · exact Or.inl rfl

theorem mendLeading_ne_commentOut (rules : Rules) (content : List Char) :
    (mendLeading rules content).action ≠ .commentOut := by
  rcases mendLeading_action rules content with h | h <;> simp [h]

theorem mendLeading_ne_insertGuard (rules : Rules) (content : List Char) :
    (mendLeading rules content).action ≠ .insertGuard := by
  rcases mendLeading_action rules content with h | h <;> simp [h]

theorem replaces_mendLeading (rules : Rules) (content : List Char) :
    Replaces content (mendLeading rules content).text := by
  cases h : Guard.leading? content with
  | none =>
      rw [mendLeading_of_none rules h]
      exact Replaces.refl content
  | some guard =>
      rcases mendLeading_cases rules h with ⟨_, heq⟩ | ⟨_, _, heq⟩
      · rw [heq]
        exact Replaces.refl content
      · rcases Guard.mend_leading h with ⟨t, tail, hline, -, -, hmend⟩
        have hmid := replaces_middle (indentOf content) t Guard.clause tail
          (by decide) (by decide) (by decide) (by decide)
        rw [← hline] at hmid
        rw [heq, hmend]
        exact hmid

theorem advance_mendLeading (rules : Rules) (content : List Char) :
    code.advance (mendLeading rules content).text = code.advance content := by
  cases h : Guard.leading? content with
  | none => rw [mendLeading_of_none rules h]; rfl
  | some guard =>
      rcases mendLeading_cases rules h with ⟨_, heq⟩ | ⟨_, _, heq⟩
      · rw [heq]; rfl
      · rw [heq]
        exact Guard.advance_mend_leading h

theorem indentOf_mendLeading (rules : Rules) (content : List Char) :
    indentOf (mendLeading rules content).text = indentOf content := by
  cases h : Guard.leading? content with
  | none => rw [mendLeading_of_none rules h]; rfl
  | some guard =>
      rcases mendLeading_cases rules h with ⟨_, heq⟩ | ⟨_, _, heq⟩
      · rw [heq]; rfl
      · rcases Guard.mend_leading h with ⟨t, tail, -, -, -, hmend⟩
        rw [heq, hmend]
        exact indentOf_append (fun _ => isBlank_of_mem_indentOf) rfl

/-- A guard that opens a line is still there afterwards, mended for good. -/
theorem leading?_mendLeading (rules : Rules) {content : List Char} {guard : Guard}
    (h : Guard.leading? content = some guard) :
    ∃ again, Guard.leading? (mendLeading rules content).text = some again ∧
      ¬ (again.spelling = .typo ∧ rules.fixTypos = true) := by
  rcases mendLeading_cases rules h with ⟨hno, heq⟩ | ⟨_, _, heq⟩
  · rw [heq]
    exact ⟨guard, h, hno⟩
  · rw [heq]
    refine ⟨_, Guard.leading?_mend h, ?_⟩
    rintro ⟨htypo, -⟩
    cases htypo

end Rerun
