import Rerun.Proofs.SpanLines

/-!
# Two Scans Side by Side

When two scripts are scanned whose lines differ only in ways that a scan does
not look at, the spans of the one correspond to the spans of the other. What
"correspond" means is left open: `R` compares a span of the one script with a
span of the other. It has to respect the kind, because the kind decides where
a span ends, and it has to survive that both spans grow by a line
(`Span.Comparison`).

Two contents are `Alike` if a scan that meets them in the same state does the
same with both. From there it is one step for a line (`read`) and an induction
for the scan (`scan`).

## Main definitions

* `Span.Comparison`: A relation of spans that a scan respects.
* `Statement.Alike`: Two contents that a scan treats alike.
* `Statement.AllAlike`: Two lists of lines that a scan treats alike.
* `Cursor.Alike`: Two scans that are in the same place.

## Theorems

* `Statement.Alike.stopsBefore`: Open spans stop before both of two alike
  contents or before neither.
* `Cursor.Alike.read`: Alike contents lead to alike cursors.
* `Cursor.Alike.scan`: The spans of alike lines correspond.
* `Statement.AllAlike.afterLines`: Alike lines lead to the same states.
-/

namespace Rerun

open Text LexState

/-- A relation of spans that a scan respects. -/
structure Span.Comparison (R : Span → Span → Prop) : Prop where
  kind : ∀ {span other}, R span other → other.kind = span.kind
  grow : ∀ {span other}, R span other → ∀ number stop stop' terminated,
    R (span.grow number stop terminated) (other.grow number stop' terminated)

/-- Two contents that a scan in the given state treats alike. -/
structure Statement.Alike (R : Span → Span → Prop) (lex : LexState)
    (content other : List Char) : Prop where
  effect : lex.advance other = lex.advance content
  eligible : eligible (lex == .code) (bodyOf other) = eligible (lex == .code) (bodyOf content)
  continues : continuesDrop (lex == .code) (bodyOf other) =
    continuesDrop (lex == .code) (bodyOf content)
  opens : opens (bodyOf other) = opens (bodyOf content)
  opening : ∀ number offset offset' size size' terminated,
    R (Span.opening number offset size content terminated)
      (Span.opening number offset' size' other terminated)

/-- Two lists of lines that a scan treats alike, line by line. -/
inductive Statement.AllAlike (R : Span → Span → Prop) : LexState → List Line → List Line → Prop
  | nil {lex : LexState} : AllAlike R lex [] []
  | cons {lex : LexState} {line other : Line} {lines others : List Line} :
      Alike R lex line.content other.content →
      AllAlike R (lex.advance line.content).last lines others →
      AllAlike R lex (line :: lines) (other :: others)

/-- Two scans that are in the same place, with open spans that correspond. -/
structure Cursor.Alike (R : Span → Span → Prop) (cursor other : Cursor) : Prop where
  lex : other.lex = cursor.lex
  number : other.number = cursor.number
  current : Option.Rel (fun a b => R a.1 b.1 ∧ b.2 = a.2) cursor.current other.current

section Lines

variable {R : Span → Span → Prop}

/-- Spans of one kind stop before both of two alike contents or before
    neither. -/
theorem Statement.Alike.stopsBefore {lex : LexState} {content content' : List Char}
    (h : Alike R lex content content') {span other : Span} (hkind : other.kind = span.kind)
    (depth : Int) :
    other.stopsBefore depth (lex == .code) (bodyOf content') =
      span.stopsBefore depth (lex == .code) (bodyOf content) := by
  unfold Span.stopsBefore
  rw [hkind, h.continues, h.eligible, h.opens]

/-- Alike lines lead to the same lexical states. -/
theorem Statement.AllAlike.afterLines {lex : LexState} {lines others : List Line}
    (h : AllAlike R lex lines others) (k : Nat) :
    lex.afterLines ((others.take k).map Line.content) =
      lex.afterLines ((lines.take k).map Line.content) := by
  induction h generalizing k with
  | nil => rfl
  | @cons lex line other lines others hline _ ih =>
      cases k with
      | zero => rfl
      | succ k =>
          simp only [List.take_succ_cons, List.map_cons]
          change LexState.afterLines (lex.advance other.content).last _ =
            LexState.afterLines (lex.advance line.content).last _
          rw [hline.effect]
          exact ih k

end Lines

namespace Cursor.Alike

variable {R : Span → Span → Prop} {cursor other : Cursor} {content content' : List Char}

/-- The open spans of two scans, if there are any, correspond. -/
theorem current_cases (h : cursor.Alike R other) :
    (cursor.current = none ∧ other.current = none) ∨
      ∃ span span' depth, cursor.current = some (span, depth) ∧
        other.current = some (span', depth) ∧ R span span' := by
  have hcurrent := h.current
  generalize cursor.current = a at hcurrent ⊢
  generalize other.current = b at hcurrent ⊢
  cases hcurrent with
  | none => exact Or.inl ⟨rfl, rfl⟩
  | @some x y hspans =>
      rcases x with ⟨span, depth⟩
      rcases y with ⟨span', depth'⟩
      rcases hspans with ⟨hR, hdepth⟩
      cases hdepth
      exact Or.inr ⟨span, span', depth, rfl, rfl, hR⟩

/-- The spans that stop before two alike contents correspond. -/
theorem closed (hR : Span.Comparison R) (h : cursor.Alike R other)
    (hline : Statement.Alike R cursor.lex content content') :
    List.Forall₂ R (cursor.closed content) (other.closed content') := by
  rcases h.current_cases with ⟨hnone, hnone'⟩ | ⟨span, span', depth, hcurrent, hcurrent', hspan⟩
  · simp only [Cursor.closed, hnone, hnone']
    exact .nil
  · simp only [Cursor.closed, hcurrent, hcurrent', h.lex, hline.stopsBefore (hR.kind hspan)]
    split
    · exact .cons hspan .nil
    · exact .nil

/-- The spans that two alike contents open correspond. -/
theorem fresh (h : cursor.Alike R other)
    (hline : Statement.Alike R cursor.lex content content') (size size' : Nat) :
    Option.Rel (fun a b => R a.1 b.1 ∧ b.2 = a.2) (cursor.fresh content size)
      (other.fresh content' size') := by
  simp only [Cursor.fresh, Cursor.opened, h.lex, h.number, hline.eligible, hline.effect]
  split
  · exact .some ⟨hline.opening _ _ _ _ _ _, rfl⟩
  · exact .none

/-- The spans that two alike contents join correspond. -/
theorem joined (hR : Span.Comparison R) (h : cursor.Alike R other)
    (hline : Statement.Alike R cursor.lex content content') (size size' : Nat) :
    Option.Rel (fun a b => R a.1 b.1 ∧ b.2 = a.2) (cursor.joined content size)
      (other.joined content' size') := by
  rcases h.current_cases with ⟨hnone, hnone'⟩ | ⟨span, span', depth, hcurrent, hcurrent', hspan⟩
  · simp only [Cursor.joined, hnone, hnone']
    exact h.fresh hline size size'
  · simp only [Cursor.joined, hcurrent, hcurrent', h.lex, hline.stopsBefore (hR.kind hspan)]
    split
    · exact h.fresh hline size size'
    · refine .some ⟨?_, ?_⟩
      · simp only [Cursor.grown, h.lex, h.number, hline.effect]
        exact hR.grow hspan _ _ _ _
      · simp only [hline.effect]

/-- Alike contents finish spans that correspond, and lead to alike cursors. -/
theorem read (hR : Span.Comparison R) (h : cursor.Alike R other)
    (hline : Statement.Alike R cursor.lex content content') (size size' : Nat) :
    List.Forall₂ R (cursor.read content size).1 (other.read content' size').1 ∧
      (cursor.read content size).2.Alike R (other.read content' size').2 := by
  have hclosed := h.closed hR hline
  have hjoined := h.joined hR hline size size'
  have honward : ∀ current current',
      Option.Rel (fun a b => R a.1 b.1 ∧ b.2 = a.2) current current' →
      (cursor.onward content size current).Alike R (other.onward content' size' current') := by
    intro current current' hcurrent
    refine ⟨?_, ?_, hcurrent⟩
    · simp only [Cursor.onward, h.lex, hline.effect]
    · simp only [Cursor.onward, h.number]
  -- Both lines have a semicolon or neither has, so both scans take the same way.
  rw [Cursor.read_eq, Cursor.read_eq, h.lex, hline.effect]
  split
  · refine ⟨?_, honward none none .none⟩
    refine List.rel_append hclosed ?_
    generalize cursor.joined content size = a at hjoined ⊢
    generalize other.joined content' size' = b at hjoined ⊢
    cases hjoined with
    | none => exact .nil
    | some hspans => exact .cons hspans.1 .nil
  · exact ⟨hclosed, honward _ _ hjoined⟩

/-- The spans of alike lines correspond. -/
theorem scan (hR : Span.Comparison R) {lines others : List Line}
    (hlines : Statement.AllAlike R cursor.lex lines others) (h : cursor.Alike R other)
    (lead lead' : Nat) : List.Forall₂ R (cursor.scan lead lines) (other.scan lead' others) := by
  -- The lines are compared in the state of the first scan, which moves on.
  generalize hlex : cursor.lex = lex at hlines
  induction hlines generalizing cursor other lead lead' with
  | nil =>
      rcases h.current_cases with ⟨hnone, hnone'⟩ | ⟨span, span', depth, hcurrent, hcurrent', hspan⟩
      · simp only [Cursor.scan, hnone, hnone']
        exact .nil
      · simp only [Cursor.scan, hcurrent, hcurrent']
        exact .cons hspan .nil
  | @cons lex line other' lines others hline _ ih =>
      rw [← hlex] at hline
      rcases h.read hR hline (lead + line.size) (lead' + other'.size) with ⟨hfinished, hnext⟩
      rw [Cursor.scan_cons, Cursor.scan_cons]
      refine List.rel_append hfinished (ih hnext 0 0 ?_)
      rw [Cursor.lex_read, hlex]

end Cursor.Alike

end Rerun
