import Rerun.Proofs.LineEdits
import Rerun.Proofs.SpanExtents
import Rerun.Proofs.WideReading

/-!
# Guards by Byte Offsets

A program that works on the bytes of a script finds a guard in blanked bytes,
takes the offsets it finds there, and cuts the script itself at them. That is
safe only if an offset of the blanked bytes is one of the script, lies inside
of it, and does not split one of its characters.

The functions of this file do it that way (`Guard.findInBytes?`,
`guardCreateBySlices?`, `mendLeadingBySlices?`). Each cut is a
`Utf8.splitAt?`, which fails past the end and inside a character, and a failed
cut makes the whole edit fail. So it is enough to compare them with the edits
that count in characters and cannot fail: they always give the same line, hence
no cut ever fails.

What makes the offsets agree is that the clause stands on the same marks in
both blanked forms (`Guard.search_marks`), and that the widened form of any
marks is as long in bytes as the characters themselves (`Utf8.size_widened`).

## Main definitions

* `Utf8.IsBoundary`: An offset between two characters.
* `Guard.Extent`: A clause and the bytes it takes up.
* `Guard.extent`: The bytes of a clause that was found among characters.
* `Guard.findInBytes?`, `Guard.leadingInBytes?`: The guards of a text, found by
  bytes.
* `guardCreateBySlices?`, `mendLeadingBySlices?`: The edits of a line, cut at
  byte offsets.

## Theorems

* `Guard.findInBytes?_eq`, `Guard.leadingInBytes?_eq`: Both ways of counting
  find the same guard.
* `Guard.Extent.Cuts.bounds`: The offsets of a piece of a text.
* `guardCreateBySlices?_eq`, `mendLeadingBySlices?_eq`: No cut of a line fails.
* `blanking_and_offsets_safe`: Blanked bytes, and all that is cut by them.
-/

namespace Rerun

open Text Keyword LexState

namespace Utf8

/-- A byte offset between two characters of a text, or at one of its ends. -/
def IsBoundary (text : List Char) (offset : Nat) : Prop :=
  ∃ before after, text = before ++ after ∧ size before = offset

end Utf8

namespace Guard

/-- A guard clause and the bytes it takes up. -/
structure Extent where
  spelling : Spelling
  start : Nat
  stop : Nat
deriving DecidableEq, Repr

/-- The bytes that a guard takes up in the text it was found in. -/
def extent (guard : Guard) (text : List Char) : Extent :=
  ⟨guard.spelling, (guard.bytes text).1, (guard.bytes text).2⟩

/-- The guard after the head of a `CREATE TABLE`, found in blanked bytes. -/
def findInBytes? (afterHead : List Char) : Option Extent := do
  let blanked ← Utf8.decode? (blankedBytes afterHead)
  let code := blanked.takeWhile fun c => c != '('
  let guard ← search false 0 code
  return guard.extent code

/-- The guard that opens a line, with the bytes of the indentation counted
    before it. -/
def leadingInBytes? (line : List Char) : Option Extent := do
  let body := bodyOf line
  let (spelling, tail) ← token? body
  let start := Utf8.size line - Utf8.size body
  return ⟨spelling, start, start + (Utf8.size body - Utf8.size tail)⟩

/-- The clause is a piece of its text, in between two others. -/
structure Extent.Cuts (place : Extent) (before tok after : List Char) : Prop where
  nonempty : tok ≠ []
  start : place.start = Utf8.size before
  stop : place.stop = Utf8.size (before ++ tok)

/-- The offsets of a piece of a text are in order and split no character. -/
theorem Extent.Cuts.bounds {place : Extent} {before tok after : List Char}
    (h : place.Cuts before tok after) :
    place.start < place.stop ∧ place.stop ≤ Utf8.size (before ++ (tok ++ after)) ∧
      Utf8.IsBoundary (before ++ (tok ++ after)) place.start ∧
      Utf8.IsBoundary (before ++ (tok ++ after)) place.stop := by
  have hpos : 0 < Utf8.size tok := by
    rcases List.exists_cons_of_ne_nil h.nonempty with ⟨c, rest, htok⟩
    rw [htok, Utf8.size_cons]
    exact Nat.add_pos_left c.utf8Size_pos _
  refine ⟨?_, ?_, ⟨before, tok ++ after, rfl, h.start.symm⟩,
    ⟨before ++ tok, after, (List.append_assoc ..).symm, h.stop.symm⟩⟩
  · rw [h.start, h.stop, Utf8.size_append]
    omega
  · rw [h.stop, ← List.append_assoc, Utf8.size_append (before ++ tok)]
    omega

/-- The text on either side of the clause is found by cutting at its
    offsets. -/
theorem Extent.Cuts.splitAt? {place : Extent} {before tok after : List Char}
    (h : place.Cuts before tok after) :
    Utf8.splitAt? place.start (before ++ (tok ++ after)) = some (before, tok ++ after) ∧
      Utf8.splitAt? place.stop (before ++ (tok ++ after)) = some (before ++ tok, after) := by
  refine ⟨?_, ?_⟩
  · rw [h.start]
    exact Utf8.splitAt?_append before (tok ++ after)
  · rw [h.stop, ← List.append_assoc]
    exact Utf8.splitAt?_append (before ++ tok) after

/-- Where a guard stands behind so many characters, its offsets are the sizes
    of these characters. -/
theorem extent_eq (guard : Guard) {a b : List Char} (hstart : guard.start = a.length)
    (hstop : guard.stop = a.length + b.length) (c : List Char) :
    guard.extent (a ++ (b ++ c)) = ⟨guard.spelling, Utf8.size a, Utf8.size (a ++ b)⟩ := by
  rw [extent, bytes, hstart, hstop, List.take_left, ← List.append_assoc, ← List.length_append,
    List.take_left]

/-- The guard found in blanked bytes is the one found among characters. -/
theorem findInBytes?_eq (afterHead : List Char) :
    findInBytes? afterHead = (find? afterHead).map fun guard => guard.extent afterHead := by
  rcases exists_accounts afterHead with ⟨marks, hchars, hcode, hblanked⟩
  rcases takeWhile_marks marks with ⟨kept, rest, rfl, hnarrowed, hwidened⟩
  have hdecode : Utf8.decode? (blankedBytes afterHead) = some (widened (kept ++ rest)) := by
    rw [Utf8.decode?, hblanked, Utf8.decode_encode]
    rfl
  have hregion : region afterHead = narrowed kept := by
    rw [region, hcode, hnarrowed]
  rw [findInBytes?, hdecode, find?, hregion]
  simp only [Option.bind_eq_bind, Option.bind_some, hwidened, Option.pure_def]
  rcases search_marks false 0 0 kept with ⟨hfirst, hsecond⟩ |
    ⟨spelling, before, tok, after, rfl, hfirst, hsecond⟩
  · rw [hfirst, hsecond]
    rfl
  · rw [hfirst, hsecond, Option.bind_some, Option.map_some]
    -- The clause stands on the marks `tok`, in the blanked text and in the text itself.
    have hwide := extent_eq ⟨spelling, 0 + (widened before).length,
      0 + (widened before).length + (widened tok).length⟩ (Nat.zero_add _)
      (by rw [Nat.zero_add]) (widened after)
    have hplain := extent_eq ⟨spelling, 0 + before.length, 0 + before.length + tok.length⟩
      (a := before.map Mark.char) (b := tok.map Mark.char)
      (by rw [Nat.zero_add, List.length_map])
      (by rw [Nat.zero_add, List.length_map, List.length_map]) ((after ++ rest).map Mark.char)
    have htext : afterHead =
        before.map Mark.char ++ (tok.map Mark.char ++ (after ++ rest).map Mark.char) := by
      rw [← hchars]
      simp only [List.map_append, List.append_assoc]
    rw [htext, hplain, widened_append, widened_append, hwide, ← widened_append,
      Utf8.size_widened, Utf8.size_widened, List.map_append]

/-- The guard that opens a line is the same one in both ways of counting. -/
theorem leadingInBytes?_eq (line : List Char) :
    leadingInBytes? line = (leading? line).map fun guard => guard.extent line := by
  rw [leadingInBytes?, leading?]
  simp only [Option.bind_eq_bind, Option.pure_def]
  cases htoken : token? (bodyOf line) with
  | none => rfl
  | some read =>
      rcases read with ⟨spelling, tail⟩
      rcases (token?_eq_some_iff _ _ _).mp htoken with ⟨t, -, hbody, -⟩
      have hline : line = indentOf line ++ (t ++ tail) := by
        rw [← hbody, indentOf_append_bodyOf]
      have hsize : Utf8.size line = Utf8.size (indentOf line) + Utf8.size (t ++ tail) := by
        conv => lhs; rw [hline]
        rw [Utf8.size_append]
      have hplain := extent_eq ⟨spelling, (indentOf line).length,
        (indentOf line).length + t.length⟩ rfl rfl tail
      rw [← hline] at hplain
      simp only [Option.bind_some, Option.map_some, hbody, List.length_append,
        Nat.add_sub_cancel, hplain, hsize, Utf8.size_append]

/-- Where a guard is found, the text is cut into three pieces around it. -/
theorem cuts_of_find? {rest : List Char} {guard : Guard} (h : find? rest = some guard) :
    ∃ before tok after, rest = before ++ (tok ++ after) ∧
      (guard.extent rest).Cuts before tok after ∧
      guard.mend rest = before ++ (clause ++ after) := by
  rcases find?_split h with ⟨before, tok, after, rfl, hs⟩
  refine ⟨before, tok, after, rfl, ?_, hs.mend_eq⟩
  rw [extent_eq guard hs.start hs.stop]
  -- The code of the clause has a first letter, so the clause is not empty.
  refine ⟨?_, rfl, rfl⟩
  rintro rfl
  rcases hs.first.spells.head guard.spelling.isKeyword_words with ⟨-, -, c, more, hcode, -⟩
  cases hcode

/-- The same for the guard that opens a line. -/
theorem cuts_of_leading? {line : List Char} {guard : Guard} (h : leading? line = some guard) :
    ∃ before tok after, line = before ++ (tok ++ after) ∧
      (guard.extent line).Cuts before tok after ∧
      guard.mend line = before ++ (clause ++ after) := by
  rcases (leading?_eq_some_iff _ _).mp h with ⟨t, tail, hbody, ht, hend, hstart, hstop⟩
  have hline : line = indentOf line ++ (t ++ tail) := by
    rw [← hbody, indentOf_append_bodyOf]
  have hextent := extent_eq guard hstart (by rw [hstop, hstart]) tail
  have hmend := mend_append hstart (by rw [hstop, hstart]) tail
  rw [← hline] at hextent hmend
  refine ⟨indentOf line, t, tail, hline, ?_, hmend⟩
  rw [hextent]
  refine ⟨?_, rfl, rfl⟩
  rintro rfl
  rcases ht.head guard.spelling.isKeyword_words with ⟨-, -, c, more, hnil, -⟩
  cases hnil

end Guard

/-- The guard rules for a line that opens a `CREATE TABLE`, with every piece of
    the line cut at a byte offset. -/
def guardCreateBySlices? (rules : Rules) (content : List Char) (guardFollows : Bool) :
    Option Treated := do
  let (indent, body) ← Utf8.splitAt? (Utf8.size content - Utf8.size (bodyOf content)) content
  match (Statement.createHead? body).map fun (head, _) => Utf8.size head with
  | none => return .kept content
  | some length =>
    let (head, rest) ← Utf8.splitAt? length body
    match Guard.findInBytes? rest with
    | some guard =>
      if guard.spelling = .typo ∧ rules.fixTypos then
        let (before, _) ← Utf8.splitAt? guard.start rest
        let (_, after) ← Utf8.splitAt? guard.stop rest
        return ⟨.fixTypo, indent ++ head ++ (before ++ (Guard.clause ++ after))⟩
      else return .kept content
    | none =>
      if guardFollows ∨ ¬ rules.insertGuards then return .kept content
      else return ⟨.insertGuard, insertGuard indent head rest⟩

/-- Mends a misspelled guard that opens a line, cut out at its byte offsets. -/
def mendLeadingBySlices? (rules : Rules) (content : List Char) : Option Treated :=
  match Guard.leadingInBytes? content with
  | some guard =>
    if guard.spelling = .typo ∧ rules.fixTypos then do
      let (before, _) ← Utf8.splitAt? guard.start content
      let (_, after) ← Utf8.splitAt? guard.stop content
      return ⟨.fixTypo, before ++ (Guard.clause ++ after)⟩
    else some (.kept content)
  | none => some (.kept content)

/-- A line is cut after its indentation. -/
theorem splitAt?_indentOf (content : List Char) :
    Utf8.splitAt? (Utf8.size content - Utf8.size (bodyOf content)) content =
      some (indentOf content, bodyOf content) := by
  have hparts : ∀ text, text = indentOf content ++ bodyOf content →
      Utf8.splitAt? (Utf8.size text - Utf8.size (bodyOf content)) text =
        some (indentOf content, bodyOf content) := by
    rintro _ rfl
    rw [Utf8.size_append, Nat.add_sub_cancel, Utf8.splitAt?_append]
  exact hparts content (indentOf_append_bodyOf content).symm

/-- No cut of a line that opens a `CREATE TABLE` fails. -/
theorem guardCreateBySlices?_eq (rules : Rules) (content : List Char) (follows : Bool) :
    guardCreateBySlices? rules content follows = some (guardCreate rules content follows) := by
  simp only [guardCreateBySlices?, splitAt?_indentOf, Option.bind_eq_bind, Option.bind_some]
  cases h : Statement.createHead? (bodyOf content) with
  | none =>
      simp only [guardCreate, h, Option.map_none]
      rfl
  | some split =>
      rcases split with ⟨head, rest⟩
      have hbody := ((Statement.createHead?_eq_some_iff _ _ _).mp h).1
      have hcut : Utf8.splitAt? (Utf8.size head) (bodyOf content) = some (head, rest) := by
        rw [hbody, Utf8.splitAt?_append]
      simp only [Option.map_some, hcut, Option.bind_some, Guard.findInBytes?_eq]
      rcases guardCreate_cases rules follows h with ⟨guard, hfind, hno, heq⟩ |
        ⟨guard, hfind, htypo, hfix, heq⟩ | ⟨hfind, hkeep, heq⟩ | ⟨hfind, hfollows, hinsert, heq⟩
      · rw [heq, hfind]
        exact if_neg hno
      · -- The only line that is cut again: before and after the misspelled clause.
        rcases Guard.cuts_of_find? hfind with ⟨before, tok, after, htext, hcuts, hmend⟩
        have hslices := hcuts.splitAt?
        rw [← htext] at hslices
        rw [heq, hmend, hfind]
        simp only [Option.map_some, hslices.1, hslices.2, Option.bind_some]
        exact if_pos ⟨htypo, hfix⟩
      · rw [heq, hfind]
        refine if_pos ?_
        rcases hkeep with hkeep | hkeep
        · exact Or.inl hkeep
        · exact Or.inr (by rw [hkeep]; decide)
      · rw [heq, hfind]
        refine if_neg ?_
        rw [hfollows, hinsert]
        decide

/-- No cut of a line that a guard opens fails. -/
theorem mendLeadingBySlices?_eq (rules : Rules) (content : List Char) :
    mendLeadingBySlices? rules content = some (mendLeading rules content) := by
  rw [mendLeadingBySlices?, Guard.leadingInBytes?_eq]
  cases h : Guard.leading? content with
  | none => rw [mendLeading_of_none rules h, Option.map_none]
  | some guard =>
      rcases mendLeading_cases rules h with ⟨hno, heq⟩ | ⟨htypo, hfix, heq⟩
      · rw [heq]
        exact if_neg hno
      · rcases Guard.cuts_of_leading? h with ⟨before, tok, after, htext, hcuts, hmend⟩
        have hslices := hcuts.splitAt?
        rw [← htext] at hslices
        rw [heq, hmend, Option.map_some]
        simp only [hslices.1, hslices.2, Option.bind_eq_bind, Option.bind_some]
        exact if_pos ⟨htypo, hfix⟩

/-- Blanked bytes are the text of some characters, as long as the text itself,
    with the bytes of its code and spaces elsewhere. A guard that is found in
    them is the one found among characters, its offsets are in order, inside
    the text and between its characters, and no cut that is made at them
    fails. -/
theorem blanking_and_offsets_safe (text : List Char) :
    (∃ blanked, Utf8.decode (blankedBytes text) = .ok blanked) ∧
    (blankedBytes text).length = Utf8.size text ∧
    (∀ i < Utf8.size text,
      (Visited text i → (blankedBytes text)[i]? = (Utf8.encode text)[i]?) ∧
      (¬ Visited text i → (blankedBytes text)[i]? = some 0x20)) ∧
    Guard.findInBytes? text = (Guard.find? text).map (fun guard => guard.extent text) ∧
    Guard.leadingInBytes? text = (Guard.leading? text).map (fun guard => guard.extent text) ∧
    (∀ guard, Guard.find? text = some guard ∨ Guard.leading? text = some guard →
      (guard.extent text).start < (guard.extent text).stop ∧
      (guard.extent text).stop ≤ Utf8.size text ∧
      Utf8.IsBoundary text (guard.extent text).start ∧
      Utf8.IsBoundary text (guard.extent text).stop) ∧
    (∀ rules follows,
      guardCreateBySlices? rules text follows = some (guardCreate rules text follows)) ∧
    ∀ rules, mendLeadingBySlices? rules text = some (mendLeading rules text) := by
  refine ⟨decode_blankedBytes text, length_blankedBytes text, fun i => getElem?_blankedBytes,
    Guard.findInBytes?_eq text, Guard.leadingInBytes?_eq text, ?_,
    fun rules => guardCreateBySlices?_eq rules text,
    fun rules => mendLeadingBySlices?_eq rules text⟩
  rintro guard (hfind | hleading)
  · rcases Guard.cuts_of_find? hfind with ⟨before, tok, after, htext, hcuts, -⟩
    have hbounds := hcuts.bounds
    rwa [← htext] at hbounds
  · rcases Guard.cuts_of_leading? hleading with ⟨before, tok, after, htext, hcuts, -⟩
    have hbounds := hcuts.bounds
    rwa [← htext] at hbounds

end Rerun
