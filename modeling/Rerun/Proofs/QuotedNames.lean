import Rerun.Proofs.NameReading

/-!
# Quoted Names

A name in quotes is read back as it was meant, whatever its parts hold:
blanks, parentheses, semicolons, keywords and comment markers stand for
themselves, and so does a dot.

The last of these needs a condition. Quotes are taken off after the name was
cut at every dot, those inside quotes included, and so a piece that begins or
ends with a quoting character of its own would lose it. `QuotedPart` holds
what a part must satisfy.

## Main definitions

* `TableName.QuotedPart`: A part that can be written in quotes.
* `TableName.QuotedPart.writtenName`: A name in quotes.
* `TableName.openings`: The phrases that a name may follow.

## Theorems

* `TableName.QuotedPart.unquote_writtenName`: The name without its quotes.
* `TableName.QuotedPart.rest?_writtenName`: Where the name ends.
* `TableName.quoted_name_read_back`: A quoted name on an opening line.
-/

namespace Rerun

open Text Keyword

namespace Keyword

/-- What begins with a spelling begins with no gap. -/
theorem Spells.head?_append {ws : List (List Char)} {a : List Char} (h : Spells ws a)
    (hws : ∀ w ∈ ws, IsKeyword w) (rest : List Char) : (a ++ rest).head?.any isGap = false := by
  rcases h.head hws with ⟨-, -, c, tail, rfl, -, hc⟩
  exact isGap_eq_false hc

/-- A longer phrase begins with the spelling of a shorter one. -/
theorem spells_two {w v u : List Char} {us : List (List Char)} {a : List Char}
    (h : Spells (w :: v :: u :: us) a) :
    ∃ head gap clause, Spells [w, v] head ∧ gap ≠ [] ∧ Gaps gap ∧ Spells (u :: us) clause ∧
      a = head ++ (gap ++ clause) := by
  rcases spells_cons_iff.mp h with ⟨x, g, y, hx, hne, hg, hy, rfl⟩
  rcases spells_cons_iff.mp hy with ⟨x', g', y', hx', hne', hg', hy', rfl⟩
  refine ⟨x ++ (g ++ x'), g', y', ?_, hne', hg', hy', by simp only [List.append_assoc]⟩
  exact spells_cons_iff.mpr ⟨x, g, x', hx, hne, hg, spells_one_iff.mpr hx', rfl⟩

end Keyword

namespace TableName

/-- A part of a name in quotes, which is read back as it is. -/
structure QuotedPart where
  quote : Char
  text : List Char
  isQuote : quote = '\x60' ∨ quote = '\x22'
  closed : quote ∉ text
  clean : Clean text

namespace QuotedPart

/-- The part with its quotes. -/
def written (part : QuotedPart) : List Char :=
  part.quote :: (part.text ++ [part.quote])

/-- The name that some parts make up, as it is written. -/
def writtenName (parts : List QuotedPart) : List Char :=
  ['.'].intercalate (parts.map written)

/-- The name that some parts make up. -/
def nameOf (parts : List QuotedPart) : List Char :=
  ['.'].intercalate (parts.map text)

section Parts

variable (part next : QuotedPart) (more : List QuotedPart)

@[simp]
theorem writtenName_singleton : writtenName [part] = part.written :=
  List.intercalate_singleton

@[simp]
theorem writtenName_cons_cons :
    writtenName (part :: next :: more) = part.written ++ '.' :: writtenName (next :: more) := by
  simp [writtenName, List.intercalate_cons_cons]

@[simp]
theorem nameOf_singleton : nameOf [part] = part.text :=
  List.intercalate_singleton

@[simp]
theorem nameOf_cons_cons :
    nameOf (part :: next :: more) = part.text ++ '.' :: nameOf (next :: more) := by
  simp [nameOf, List.intercalate_cons_cons]

end Parts

theorem isQuoteMark_quote (part : QuotedPart) : isQuoteMark part.quote = true := by
  rcases part.isQuote with h | h <;> rw [h] <;> rfl

theorem unquote_written (part : QuotedPart) : unquote part.written = part.text := by
  have hmark := part.isQuoteMark_quote
  rw [written, unquote_cons hmark, unquote_append (by simpa using hmark),
    unquote_of_clean part.clean]

theorem unquote_writtenName (parts : List QuotedPart) :
    unquote (writtenName parts) = nameOf parts := by
  induction parts with
  | nil => rfl
  | cons part rest ih =>
      cases rest with
      | nil => rw [writtenName_singleton, nameOf_singleton, part.unquote_written]
      | cons next more =>
          rw [writtenName_cons_cons, nameOf_cons_cons, unquote_append_dot, part.unquote_written, ih]

/-- A quoted part is passed over, whatever it holds. -/
theorem walk_quoted {q : Char} {text : List Char} (h : q ∉ text) (rest : List Char) :
    walk (.quoted q) (text ++ q :: rest) = walk .closed rest := by
  induction text with
  | nil => rw [List.nil_append, walk, if_pos rfl]
  | cons c more ih =>
      rw [List.mem_cons, not_or] at h
      rw [List.cons_append, walk, if_neg (Ne.symm h.1), ih h.2]

theorem walk_written (part : QuotedPart) (rest : List Char) :
    walk .fresh (part.written ++ rest) = walk .closed rest := by
  have hquoted := walk_quoted part.closed rest
  rw [written, List.cons_append, List.append_assoc, List.singleton_append, walk,
    if_pos part.isQuote, hquoted]

/-- The parts are read up to what follows the last one. -/
theorem rest?_writtenName {parts : List QuotedPart} (hparts : parts ≠ []) {tail : List Char}
    (htail : tail.head? ≠ some '.') : rest? (writtenName parts ++ tail) = some tail := by
  have hend : walk .closed tail = some tail := by
    cases tail with
    | nil => rfl
    | cons c more =>
        have hdot : c ≠ '.' := fun hc => htail (by rw [hc]; rfl)
        rw [walk, if_neg hdot]
  rw [rest?]
  induction parts with
  | nil => exact absurd rfl hparts
  | cons part rest ih =>
      cases rest with
      | nil => rw [writtenName_singleton, part.walk_written, hend]
      | cons next more =>
          rw [writtenName_cons_cons, List.append_assoc, part.walk_written, List.cons_append, walk,
            if_pos rfl, ih (List.cons_ne_nil next more)]
          rfl

/-- A name in quotes begins with a quote. -/
theorem exists_quote {parts : List QuotedPart} (hparts : parts ≠ []) :
    ∃ q more, writtenName parts = q :: more ∧ (q = '\x60' ∨ q = '\x22') := by
  rcases List.exists_cons_of_ne_nil hparts with ⟨part, rest, rfl⟩
  cases rest with
  | nil => exact ⟨part.quote, _, writtenName_singleton part, part.isQuote⟩
  | cons next more => exact ⟨part.quote, _, writtenName_cons_cons part next more, part.isQuote⟩

theorem named?_writtenName {parts : List QuotedPart} (hparts : parts ≠ []) {tail : List Char}
    (htail : tail.head? ≠ some '.') : named? (writtenName parts ++ tail) = some (nameOf parts) := by
  refine (named?_eq_some_iff _ _).mpr ⟨writtenName parts, tail, rfl, rest?_writtenName hparts htail,
    ?_, unquote_writtenName parts⟩
  rcases exists_quote hparts with ⟨q, more, hwritten, hq⟩
  rw [hwritten]
  rcases hq with rfl | rfl <;> rfl

end QuotedPart

/-- No clause begins with a quote. -/
theorem clause?_of_quote {clause? : List Char → Option (List Char)} (h : BeginsIf clause?)
    {q : Char} (hq : q = '\x60' ∨ q = '\x22') (text : List Char) : clause? (q :: text) = none := by
  refine Option.eq_none_iff_forall_ne_some.mpr fun rest hrest => ?_
  rcases h _ _ hrest with ⟨word, gap, more, htext, hupper, -, -⟩
  cases word with
  | nil => cases hupper
  | cons c others =>
      rw [List.cons_append, List.cons.injEq] at htext
      rw [← htext.1, List.map_cons, List.cons.injEq] at hupper
      rcases hq with rfl | rfl
      · exact absurd hupper.1 (by decide)
      · exact absurd hupper.1 (by decide)

/-- The phrases that the name may follow in an opening line, with and without
    the clause that makes the statement safe to run again. -/
def openings : Kind → List (List (List Char))
  | .createTable => [Statement.createWords, Statement.createWords ++ Spelling.proper.words]
  | .dropTable => [["DROP", "TABLE"], ["DROP", "TABLE", "IF", "EXISTS"]].map (·.map String.toList)
  | .other => []

/-- A quoted name is read back exactly, with or without a clause before it, in
    any case and with any ASCII blanks, whatever follows it but a dot. -/
theorem quoted_name_read_back {kind : Kind} {phrase : List (List Char)}
    (hphrase : phrase ∈ openings kind) {opening gap tail : List Char}
    (hopening : Spells phrase opening) (hne : gap ≠ []) (hgap : Gaps gap)
    {parts : List QuotedPart} (hparts : parts ≠ []) (htail : tail.head? ≠ some '.') :
    kind.tableName? (opening ++ (gap ++ (QuotedPart.writtenName parts ++ tail))) =
      some (QuotedPart.nameOf parts) := by
  rcases QuotedPart.exists_quote hparts with ⟨q, more, hwritten, hq⟩
  have hnamed := QuotedPart.named?_writtenName hparts htail
  rw [hwritten, List.cons_append] at hnamed ⊢
  have hstart : (q :: (more ++ tail)).head?.any isGap = false := by
    rcases hq with rfl | rfl <;> rfl
  cases kind with
  | other => cases hphrase
  | createTable =>
      -- The name follows the head, or it follows the clause behind the head.
      rcases List.mem_pair.mp hphrase with rfl | rfl
      · change ofCreate? _ = _
        rw [ofCreate?_spelled hopening, dropWhile_gaps hgap hstart, afterGuard,
          clause?_of_quote beginsIf_guardClause? hq]
        exact hnamed
      · rcases spells_two hopening with ⟨head, gap', clause, hhead, -, hgap', hclause, rfl⟩
        have hproper : Spells Spelling.proper.words clause := hclause
        have hbefore := hproper.head?_append Spelling.proper.isKeyword_words
          (gap ++ q :: (more ++ tail))
        change ofCreate? _ = _
        rw [List.append_assoc, List.append_assoc, ofCreate?_spelled hhead,
          dropWhile_gaps hgap' hbefore, afterGuard, guardClause?_spelled hproper hne hgap hstart]
        exact hnamed
  | dropTable =>
      rcases List.mem_pair.mp hphrase with rfl | rfl
      · change ofDrop? _ = _
        rw [ofDrop?_spelled hopening hne hgap hstart, clause?_of_quote beginsIf_existsClause? hq]
        exact hnamed
      · rcases spells_two hopening with ⟨head, gap', clause, hhead, hne', hgap', hclause, rfl⟩
        have hbefore := hclause.head?_append (by decide) (gap ++ q :: (more ++ tail))
        change ofDrop? _ = _
        rw [List.append_assoc, List.append_assoc, ofDrop?_spelled hhead hne' hgap' hbefore,
          existsClause?_spelled hclause hne hgap hstart]
        exact hnamed

/-- Dots, blanks, parentheses and quotes of the other kind inside the parts. -/
theorem quoted_name_read_back_dotted :
    let parts : List QuotedPart :=
      [⟨'\x60', "my.db".toList, by decide, by decide, by decide⟩,
        ⟨'\x22', "a ( \x60b\x60; --c".toList, by decide, by decide, by decide⟩]
    Kind.createTable.tableName?
        ("create\tTable if NOT exists".toList ++ ("  ".toList ++
          (QuotedPart.writtenName parts ++ "(id INT);".toList))) =
      some "my.db.a ( \x60b\x60; --c".toList := by
  intro parts
  have hopening : Spells (Statement.createWords ++ Spelling.proper.words)
      "create\tTable if NOT exists".toList := spells_of_phrase? (by decide) (by decide)
  have hgap : Gaps "  ".toList := List.all_eq_true.mp (by decide)
  exact quoted_name_read_back (List.mem_cons_of_mem _ List.mem_cons_self) hopening (by decide) hgap
    (List.cons_ne_nil _ _) (by decide)

end TableName

end Rerun
