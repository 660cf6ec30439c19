import Mathlib.Data.List.Basic
import Mathlib.Data.List.TakeWhile
import Rerun.Proofs.LineEdits
import Rerun.Proofs.Places

/-!
# Reading Names

What the recogniser of table names reads, and what is left of a name without
its quotes.

Both ways of reading a name, the one on the opening line and the one on the
line after a bare head, end in `unquote`. It takes quoting characters away from
the two ends of each piece between dots and nothing else, so a name is known
up to quoting characters once its unquoted form is known (`filter_unquote`).
This is what two readers of different design are compared by.

The optional clause before a name needs no second attempt. If no name follows
the clause then its first word would be the name, and that word is refused. So
a name is read behind the clause if there is one, and from the beginning
otherwise (`afterClause?_eq`).

## Main definitions

* `TableName.Clean`: A name that has nothing to lose to `unquote`.
* `TableName.named?`: The name at the front of a text, without its quotes.
* `TableName.BeginsIf`: A clause that begins with the word `IF`.
* `TableName.afterGuard`: What stands behind the guard that may open a text.

## Theorems

* `Text.splitOn_append_sep`, `Text.intercalate_splitOn`: The pieces of a text.
* `TableName.unquote_append_dot`, `TableName.unquote_cons`,
  `TableName.unquote_append`, `TableName.unquote_of_clean`: A name without its
  quotes, part by part.
* `TableName.filter_unquote`: Only quoting characters are taken away.
* `TableName.named?_eq_some_iff`: What is read as a name.
* `TableName.afterClause?_eq`: A name behind an optional clause.
* `TableName.guardClause?_eq`: The clause before a name is a guard.
* `TableName.ofCreate?_spelled`, `TableName.ofDrop?_spelled`: The name behind
  the words of a head.
-/

namespace Rerun

open Text Keyword

namespace Text

theorem splitOn_eq (sep : Char) (text : List Char) : splitOn sep text = List.splitOn sep text := by
  induction text with
  | nil => rfl
  | cons c rest ih =>
      have hcons : List.splitOn sep (c :: rest) = if (c == sep) = true then
          [] :: List.splitOn sep rest else (List.splitOn sep rest).modifyHead (List.cons c) :=
        List.splitOnP_cons_eq_if_modifyHead c rest
      rw [splitOn, ih, hcons]
      cases hpieces : List.splitOn sep rest with
      | nil => exact absurd hpieces (List.splitOn_ne_nil sep rest)
      | cons piece pieces => simp only [beq_iff_eq, List.modifyHead_cons]

/-- A separator ends one piece and begins another. -/
theorem splitOn_append_sep (sep : Char) (a b : List Char) :
    splitOn sep (a ++ sep :: b) = splitOn sep a ++ splitOn sep b := by
  rw [splitOn_eq, splitOn_eq, splitOn_eq]
  exact List.splitOnP_append_cons a b (beq_self_eq_true sep)

theorem splitOn_ne_nil (sep : Char) (text : List Char) : splitOn sep text ≠ [] := by
  rw [splitOn_eq]
  exact List.splitOn_ne_nil sep text

/-- The pieces of a text make up the text. -/
theorem intercalate_splitOn (sep : Char) (text : List Char) :
    [sep].intercalate (splitOn sep text) = text := by
  rw [splitOn_eq]
  exact List.intercalate_splitOn sep

theorem intercalate_append {sep : List Char} {a b : List (List Char)} (ha : a ≠ []) (hb : b ≠ []) :
    sep.intercalate (a ++ b) = sep.intercalate a ++ (sep ++ sep.intercalate b) := by
  induction a with
  | nil => exact absurd rfl ha
  | cons first rest ih =>
      cases rest with
      | nil =>
          rcases List.exists_cons_of_ne_nil hb with ⟨next, more, rfl⟩
          rw [List.singleton_append, List.intercalate_cons_cons, List.intercalate_singleton,
            List.append_assoc]
      | cons second others =>
          rw [List.cons_append, List.cons_append, List.intercalate_cons_cons, ← List.cons_append,
            ih (List.cons_ne_nil second others), List.intercalate_cons_cons]
          simp only [List.append_assoc]

/-- What a class does not hold is kept where a separator outside the class
    stands between the pieces. -/
theorem filter_intercalate {p : Char → Bool} {sep : Char} (hsep : p sep = true)
    (pieces : List (List Char)) :
    ([sep].intercalate pieces).filter p = [sep].intercalate (pieces.map (List.filter p)) := by
  induction pieces with
  | nil => rfl
  | cons first rest ih =>
      cases rest with
      | nil => simp only [List.map_cons, List.map_nil, List.intercalate_singleton]
      | cons second others =>
          rw [List.map_cons] at ih
          rw [List.intercalate_cons_cons, List.filter_append, List.filter_append, ih,
            List.map_cons, List.map_cons, List.intercalate_cons_cons]
          simp [hsep]

section Strip

variable {p : Char → Bool}

theorem stripBoth_cons {c : Char} (hc : p c = true) (text : List Char) :
    stripBoth p (c :: text) = stripBoth p text := by
  rw [stripBoth, List.dropWhile_cons_of_pos hc, stripBoth]

theorem stripBoth_append {more : List Char} (h : ∀ c ∈ more, p c = true) (text : List Char) :
    stripBoth p (text ++ more) = stripBoth p text := by
  rw [stripBoth, stripBoth, List.dropWhile_append]
  -- If nothing is left of the text at the front, then nothing is left at all.
  by_cases hall : (text.dropWhile p).isEmpty = true
  · rw [if_pos hall, List.isEmpty_iff.mp hall, List.dropWhile_eq_nil_iff.mpr h]
  · have hback : ∀ c ∈ more.reverse, p c = true := fun c hc => h c (List.mem_reverse.mp hc)
    rw [if_neg hall, List.reverse_append, List.dropWhile_append_of_pos hback]

theorem dropWhile_of_head? {text : List Char} (h : text.head?.any p = false) :
    text.dropWhile p = text := by
  cases text with
  | nil => rfl
  | cons c rest =>
      rw [List.head?_cons, Option.any_some] at h
      exact List.dropWhile_cons_of_neg (by rw [h]; exact Bool.false_ne_true)

theorem stripBoth_eq_self {text : List Char} (hhead : text.head?.any p = false)
    (hlast : text.getLast?.any p = false) : stripBoth p text = text := by
  have hback : text.reverse.head?.any p = false := by rw [List.head?_reverse, hlast]
  rw [stripBoth, dropWhile_of_head? hhead, dropWhile_of_head? hback, List.reverse_reverse]

theorem filter_dropWhile (text : List Char) :
    (text.dropWhile p).filter (fun c => !p c) = text.filter fun c => !p c := by
  have hnone : (text.takeWhile p).filter (fun c => !p c) = [] := by
    rw [List.filter_eq_nil_iff]
    intro c hc
    simp [List.mem_takeWhile_imp hc]
  conv => rhs; rw [← @List.takeWhile_append_dropWhile _ p text]
  rw [List.filter_append, hnone, List.nil_append]

/-- Only characters of the class are taken away. -/
theorem filter_stripBoth (text : List Char) :
    (stripBoth p text).filter (fun c => !p c) = text.filter fun c => !p c := by
  rw [stripBoth, List.filter_reverse, filter_dropWhile, List.filter_reverse, List.reverse_reverse,
    filter_dropWhile]

end Strip

end Text

namespace Keyword

/-- A text that is read to its end is a spelling. -/
theorem spells_of_phrase? {w : List Char} {ws : List (List Char)}
    (hws : ∀ v ∈ w :: ws, IsKeyword v) {text : List Char} (h : phrase? (w :: ws) text = some []) :
    Spells (w :: ws) text := by
  rcases (phrase?_eq_some_iff hws text []).mp h with ⟨a, ha, rfl⟩
  rwa [List.append_nil]

/-- A word ends where a gap begins. -/
theorem atBoundary_gap {gap : List Char} (hne : gap ≠ []) (hgap : Gaps gap) (rest : List Char) :
    atBoundary (gap ++ rest) = true := by
  rcases List.exists_cons_of_ne_nil hne with ⟨c, more, rfl⟩
  rw [List.cons_append, atBoundary,
    isWord_eq_false (isBlank_of_isGap (hgap c List.mem_cons_self)), Bool.not_false]

end Keyword

namespace TableName

/-- The pieces of a name between its dots are free of quoting characters at
    their two ends. -/
def Clean (name : List Char) : Prop :=
  ∀ piece ∈ splitOn '.' name,
    piece.head?.any isQuoteMark = false ∧ piece.getLast?.any isQuoteMark = false

instance (name : List Char) : Decidable (Clean name) :=
  inferInstanceAs (Decidable (∀ piece ∈ splitOn '.' name,
    piece.head?.any isQuoteMark = false ∧ piece.getLast?.any isQuoteMark = false))

/-- Each side of a dot is unquoted for itself. -/
theorem unquote_append_dot (a b : List Char) :
    unquote (a ++ '.' :: b) = unquote a ++ '.' :: unquote b := by
  have hne : ∀ text : List Char, (splitOn '.' text).map (stripBoth isQuoteMark) ≠ [] := by
    intro text hnil
    exact splitOn_ne_nil '.' text (List.map_eq_nil_iff.mp hnil)
  rw [unquote, splitOn_append_sep, List.map_append, intercalate_append (hne a) (hne b)]
  rfl

theorem unquote_of_clean {name : List Char} (h : Clean name) : unquote name = name := by
  have hsame : (splitOn '.' name).map (stripBoth isQuoteMark) = splitOn '.' name := by
    refine (List.map_congr_left ?_).trans (List.map_id _)
    intro piece hpiece
    exact stripBoth_eq_self (h piece hpiece).1 (h piece hpiece).2
  rw [unquote, hsame, intercalate_splitOn]

/-- A dot is no quoting character. -/
theorem not_dot_of_isQuoteMark {m : Char} (h : isQuoteMark m = true) : m ≠ '.' := by
  rintro rfl
  exact absurd h (by decide)

theorem unquote_cons {m : Char} (h : isQuoteMark m = true) (name : List Char) :
    unquote (m :: name) = unquote name := by
  cases hpieces : splitOn '.' name with
  | nil => exact absurd hpieces (splitOn_ne_nil '.' name)
  | cons piece pieces =>
      have hfirst : splitOn '.' (m :: name) = (m :: piece) :: pieces := by
        rw [splitOn, hpieces]
        exact if_neg (not_dot_of_isQuoteMark h)
      rw [unquote, unquote, hfirst, hpieces, List.map_cons, List.map_cons, stripBoth_cons h]

theorem unquote_append {marks : List Char} (h : ∀ c ∈ marks, isQuoteMark c = true)
    (name : List Char) : unquote (name ++ marks) = unquote name := by
  have hdot : '.' ∉ marks := fun hmem => not_dot_of_isQuoteMark (h '.' hmem) rfl
  -- They end up in the last piece, and are stripped from it.
  rcases exists_splitOn name hdot with ⟨front, last, hname, hmore, -⟩
  rw [unquote, unquote, hname, hmore, List.map_append, List.map_append, List.map_singleton,
    List.map_singleton, stripBoth_append h]

/-- Only quoting characters are taken away. -/
theorem filter_unquote (name : List Char) :
    (unquote name).filter (fun c => !isQuoteMark c) = name.filter fun c => !isQuoteMark c := by
  have hpieces : ((splitOn '.' name).map (stripBoth isQuoteMark)).map
      (List.filter fun c => !isQuoteMark c) =
        (splitOn '.' name).map (List.filter fun c => !isQuoteMark c) := by
    rw [List.map_map]
    exact List.map_congr_left fun piece _ => filter_stripBoth piece
  rw [unquote, filter_intercalate (by decide), hpieces, ← filter_intercalate (by decide),
    intercalate_splitOn]

/-- What a walk leaves over stands at the end of the text. -/
theorem exists_of_walk {spot : Spot} {text after : List Char} (h : walk spot text = some after) :
    ∃ raw, text = raw ++ after := by
  induction text generalizing spot with
  | nil =>
      refine ⟨[], ?_⟩
      cases spot <;> cases h <;> rfl
  | cons c rest ih =>
      have hcons : ∀ {next : Spot}, walk next rest = some after →
          ∃ raw, c :: rest = raw ++ after := by
        intro next hnext
        rcases ih hnext with ⟨raw, hraw⟩
        exact ⟨c :: raw, by rw [hraw]; rfl⟩
      -- A dot is left over itself if no part follows it.
      have hpart : (walk .fresh rest).getD (c :: rest) = after →
          ∃ raw, c :: rest = raw ++ after := by
        intro hafter
        cases hfresh : walk .fresh rest with
        | none =>
            rw [hfresh] at hafter
            exact ⟨[], hafter⟩
        | some t =>
            rw [hfresh] at hafter
            exact hcons (hfresh.trans (congrArg some hafter))
      cases spot with
      | fresh =>
          rw [walk] at h
          split at h
          · exact hcons h
          · split at h
            · exact hcons h
            · cases h
      | quoted q =>
          rw [walk] at h
          split at h <;> exact hcons h
      | bare =>
          rw [walk] at h
          split at h
          · exact hcons h
          · split at h
            · exact hpart (Option.some.inj h)
            · exact ⟨[], Option.some.inj h⟩
      | closed =>
          rw [walk] at h
          split at h
          · exact hpart (Option.some.inj h)
          · exact ⟨[], Option.some.inj h⟩

theorem taken_append (raw after : List Char) : taken (raw ++ after) after = raw := by
  rw [taken, List.length_append, Nat.add_sub_cancel, List.take_left]

/-- A name is not empty, and what follows it stands behind it. -/
theorem exists_raw {text after : List Char} (h : rest? text = some after) :
    ∃ c raw, text = c :: raw ++ after := by
  cases text with
  | nil => cases h
  | cons c rest =>
      have hcons : ∀ {next : Spot}, walk next rest = some after →
          ∃ c' raw, c :: rest = c' :: raw ++ after := by
        intro next hnext
        rcases exists_of_walk hnext with ⟨raw, hraw⟩
        exact ⟨c, raw, by rw [hraw]; rfl⟩
      rw [rest?, walk] at h
      split at h
      · exact hcons h
      · split at h
        · exact hcons h
        · cases h

theorem raw_ne_nil {raw after : List Char} (h : rest? (raw ++ after) = some after) : raw ≠ [] := by
  rcases exists_raw h with ⟨c, more, hsplit⟩
  rw [List.append_cancel_right hsplit]
  exact List.cons_ne_nil c more

/-- The name at the front of a text, without its quotes. -/
def named? (text : List Char) : Option (List Char) :=
  (raw? text).bind fun raw => if isNoName raw then none else some (unquote raw)

theorem named?_eq_some_iff (text name : List Char) :
    named? text = some name ↔ ∃ raw after, text = raw ++ after ∧ rest? text = some after ∧
      isNoName raw = false ∧ unquote raw = name := by
  constructor
  · intro h
    rcases Option.bind_eq_some_iff.mp h with ⟨raw, hraw, hname⟩
    rcases Option.map_eq_some_iff.mp hraw with ⟨after, hafter, htaken⟩
    rcases exists_raw hafter with ⟨c, more, htext⟩
    rw [htext, taken_append] at htaken
    split at hname
    · cases hname
    · rename_i hno
      rw [Bool.not_eq_true] at hno
      exact ⟨raw, after, by rw [htext, htaken], hafter, hno, Option.some.inj hname⟩
  · rintro ⟨raw, after, rfl, hafter, hno, rfl⟩
    rw [named?, raw?, hafter, Option.map_some, taken_append, Option.bind_some, if_neg]
    rw [hno]
    exact Bool.false_ne_true

theorem walk_bare {word : List Char} (h : ∀ c ∈ word, isBare c = true) (rest : List Char) :
    walk .bare (word ++ rest) = walk .bare rest := by
  induction word with
  | nil => rfl
  | cons c more ih =>
      rw [List.cons_append, walk, if_pos (h c List.mem_cons_self)]
      exact ih fun d hd => h d (List.mem_cons_of_mem c hd)

theorem isBare_of_isWord {c : Char} (h : isWord c = true) : isBare c = true := by
  have hends : ['(', ';', ',', '.', '\x60', '\x22'].all (fun d => !isWord d) = true := by decide
  rw [isBare, isGap_eq_false h, Bool.not_false, Bool.true_and, Bool.not_eq_true',
    List.contains_eq_mem, decide_eq_false_iff_not]
  intro hc
  have hno := List.all_eq_true.mp hends c hc
  rw [h] at hno
  cases hno

/-- A word that a blank follows is a name. -/
theorem raw?_word {word gap : List Char} (hne : word ≠ []) (hword : ∀ c ∈ word, isWord c = true)
    (hgap : gap ≠ []) (hgaps : Gaps gap) (rest : List Char) :
    raw? (word ++ (gap ++ rest)) = some word := by
  -- The walk stays in a bare part up to the gap, and no dot is there.
  have hbare : ∀ c ∈ word, isBare c = true := fun c hc => isBare_of_isWord (hword c hc)
  have hends : walk .bare (gap ++ rest) = some (gap ++ rest) := by
    rcases List.exists_cons_of_ne_nil hgap with ⟨g, more, rfl⟩
    have hg : isGap g = true := hgaps g List.mem_cons_self
    have hdot : g ≠ '.' := by
      rintro rfl
      exact absurd hg (by decide)
    have hno : isBare g = false := by rw [isBare, hg]; rfl
    rw [List.cons_append, walk, hno, if_neg Bool.false_ne_true, if_neg hdot]
  have hrest : rest? (word ++ (gap ++ rest)) = some (gap ++ rest) := by
    rcases List.exists_cons_of_ne_nil hne with ⟨c, more, rfl⟩
    have hc : isBare c = true := hbare c List.mem_cons_self
    have hquote : ¬ (c = '\x60' ∨ c = '\x22') := by
      rintro (rfl | rfl)
      · exact absurd hc (by decide)
      · exact absurd hc (by decide)
    rw [rest?, List.cons_append, walk, if_neg hquote, if_pos hc,
      walk_bare fun d hd => hbare d (List.mem_cons_of_mem c hd)]
    exact hends
  rw [raw?, hrest, Option.map_some, taken_append]

/-- The word `IF` is no name. -/
theorem named?_of_if {word gap : List Char} (hupper : word.map Char.toUpper = ['I', 'F'])
    (hne : gap ≠ []) (hgap : Gaps gap) (rest : List Char) :
    named? (word ++ (gap ++ rest)) = none := by
  have hkeyword : IsKeyword ['I', 'F'] := by decide
  have hword := isWord_of_keyword hkeyword hupper
  have hsome : word ≠ [] := by
    rintro rfl
    cases hupper
  have hno : isNoName word = true := by
    rw [isNoName, hupper]
    rfl
  rw [named?, raw?_word hsome hword hne hgap, Option.bind_some, if_pos hno]

/-- A clause that begins with the word `IF` and a gap. -/
def BeginsIf (clause? : List Char → Option (List Char)) : Prop :=
  ∀ text rest, clause? text = some rest → ∃ word gap more, text = word ++ (gap ++ more) ∧
    word.map Char.toUpper = ['I', 'F'] ∧ gap ≠ [] ∧ Gaps gap

theorem beginsIf_of_phrase {w : List Char} {ws : List (List Char)}
    (hws : ∀ v ∈ "IF".toList :: w :: ws, IsKeyword v) {text rest : List Char}
    (h : phrase? ("IF".toList :: w :: ws) text = some rest) :
    ∃ word gap more, text = word ++ (gap ++ more) ∧
      word.map Char.toUpper = ['I', 'F'] ∧ gap ≠ [] ∧ Gaps gap := by
  rcases (phrase?_eq_some_iff hws text rest).mp h with ⟨a, ha, rfl⟩
  rcases spells_cons_iff.mp ha with ⟨x, g, y, hx, hne, hg, -, rfl⟩
  exact ⟨x, g, y ++ rest, by simp only [List.append_assoc], hx, hne, hg⟩

theorem beginsIf_guardClause? : BeginsIf guardClause? := by
  intro text rest h
  rw [guardClause?, Option.bind_eq_bind, Option.bind_eq_some_iff] at h
  rcases h with ⟨tail, htail, -⟩
  exact beginsIf_of_phrase (by decide) htail

theorem beginsIf_existsClause? : BeginsIf existsClause? := by
  intro text rest h
  rw [existsClause?, Option.bind_eq_bind, Option.bind_eq_some_iff] at h
  rcases h with ⟨tail, htail, -⟩
  exact beginsIf_of_phrase (by decide) htail

/-- A clause that is there is passed over. If no name follows it, then its
    first word would be the name, and that is no name either. -/
theorem afterClause?_eq {clause? : List Char → Option (List Char)} (h : BeginsIf clause?)
    (text : List Char) : afterClause? clause? text = named? ((clause? text).getD text) := by
  have hname : afterClause? clause? text = (((clause? text).bind raw?).or (raw? text)).bind
      fun raw => if isNoName raw then none else some (unquote raw) := rfl
  rw [hname]
  cases hclause : clause? text with
  | none => rfl
  | some rest =>
      rw [Option.bind_some, Option.getD_some, named?]
      cases raw? rest with
      | some raw => rfl
      | none =>
          rcases h text rest hclause with ⟨word, gap, more, rfl, hupper, hne, hgap⟩
          exact named?_of_if hupper hne hgap more

/-- The clause before a name is a guard with a gap behind it. -/
theorem guardClause?_eq (text : List Char) :
    guardClause? text = (Guard.token? text).bind fun found => gap? found.2 := by
  have hgap : ∀ tail : List Char, atBoundary tail = false → gap? tail = none := by
    intro tail hword
    cases tail with
    | nil => rfl
    | cons c rest =>
        rw [atBoundary, Bool.not_eq_false'] at hword
        rw [gap?, isGap_eq_false hword, if_neg Bool.false_ne_true]
  rw [guardClause?, Guard.token?]
  cases phrase? Guard.words text with
  | none => rfl
  | some rest =>
      simp only [Option.bind_eq_bind, Option.bind_some]
      cases word? ['S'] rest with
      | none =>
          cases hend : atBoundary rest with
          | false => exact hgap rest hend
          | true => rfl
      | some tail =>
          cases hend : atBoundary tail with
          | false => simp [hend, hgap tail hend]
          | true => simp [hend]

/-- What stands behind the guard that may open a text. -/
def afterGuard (text : List Char) : List Char :=
  (guardClause? text).getD text

/-- A guard is passed over together with the gap behind it. -/
theorem guardClause?_spelled {spelling : Spelling} {clause gap rest : List Char}
    (h : Spells spelling.words clause) (hne : gap ≠ []) (hgap : Gaps gap)
    (hrest : rest.head?.any isGap = false) :
    guardClause? (clause ++ (gap ++ rest)) = some rest := by
  have htoken := (Guard.token?_eq_some_iff _ _ spelling).mpr
    ⟨clause, h, rfl, atBoundary_gap hne hgap rest⟩
  rw [guardClause?_eq, htoken, Option.bind_some]
  exact (gap?_eq_some_iff _ _).mpr ⟨gap, hne, hgap, rfl, hrest⟩

theorem existsClause?_spelled {clause gap rest : List Char}
    (h : Spells ["IF".toList, "EXISTS".toList] clause) (hne : gap ≠ []) (hgap : Gaps gap)
    (hrest : rest.head?.any isGap = false) :
    existsClause? (clause ++ (gap ++ rest)) = some rest := by
  have hphrase : phrase? ["IF".toList, "EXISTS".toList] (clause ++ (gap ++ rest)) =
      some (gap ++ rest) := (phrase?_eq_some_iff (by decide) _ _).mpr ⟨clause, h, rfl⟩
  rw [existsClause?, hphrase]
  exact (gap?_eq_some_iff _ _).mpr ⟨gap, hne, hgap, rfl, hrest⟩

/-- What the head of a `CREATE TABLE` is followed by. -/
theorem ofCreate?_spelled {head : List Char} (h : Spells Statement.createWords head)
    (text : List Char) :
    ofCreate? (head ++ text) = named? (afterGuard (text.dropWhile isGap)) := by
  have hphrase : phrase? ["CREATE".toList, "TABLE".toList] (head ++ text) = some text :=
    (phrase?_eq_some_iff Statement.isKeyword_createWords _ _).mpr ⟨head, h, rfl⟩
  rw [ofCreate?, hphrase]
  exact afterClause?_eq beginsIf_guardClause? _

theorem ofDrop?_spelled {head gap text : List Char}
    (h : Spells ["DROP".toList, "TABLE".toList] head) (hne : gap ≠ []) (hgap : Gaps gap)
    (htext : text.head?.any isGap = false) :
    ofDrop? (head ++ (gap ++ text)) = named? ((existsClause? text).getD text) := by
  have hphrase : phrase? ["DROP".toList, "TABLE".toList] (head ++ (gap ++ text)) =
      some (gap ++ text) :=
    (phrase?_eq_some_iff Statement.isKeyword_dropWords _ _).mpr ⟨head, h, rfl⟩
  have hafter : gap? (gap ++ text) = some text :=
    (gap?_eq_some_iff _ _).mpr ⟨gap, hne, hgap, rfl, htext⟩
  rw [ofDrop?, hphrase, Option.bind_eq_bind, Option.bind_some, hafter]
  exact afterClause?_eq beginsIf_existsClause? _

end TableName

end Rerun
