import Rerun.Disk

/-!
# Where Paths Lead

A path that leads to a file names an entry of a directory: all but its last
name lead to the directory, and the last one is the name of the entry. The
same is true of a path that a file can be renamed to. `EntryAt` says what the
two have in common, so that reading a file and replacing it can be compared.

Putting a file at a place where no directory stands takes no directory away,
and the way to an entry leads through directories only. So every path that
named an entry before names the same one afterwards (`EntryAt.put`), and what
was renamed to a path is read under it (`EntryAt.resolve_put`).

A suffix without a slash changes the last name of a path and nothing else. The
path with the suffix therefore names an entry of the same directory, and if
the suffix is not empty it is another one (`EntryAt.ne_of_suffix`).

## Main definitions

* `Disk.Rooted`: A place that stands below directories only.
* `Disk.Way`, `Disk.EntryAt`: A path that names an entry of a directory.

## Theorems

* `Text.exists_splitOn`: The last piece of a text takes up a suffix.
* `Path.exists_names`: The names of a path with a suffix.
* `Disk.locate_concat_iff`: The last step of a walk.
* `Disk.resolve_eq_file_iff`: When a path leads to a file.
* `Disk.destination_eq_ok_iff`: When a file can be renamed to a path.
* `Disk.EntryAt.put`: Entries are named as before after a file was put
  somewhere.
* `Disk.EntryAt.ne_of_suffix`: A suffix leads to another entry.
-/

namespace Rerun

namespace Text

/-- A text without the separator is one piece. -/
theorem splitOn_of_not_mem {sep : Char} {text : List Char} (h : sep ∉ text) :
    splitOn sep text = [text] := by
  induction text with
  | nil => rfl
  | cons c rest ih =>
      rw [List.mem_cons, not_or] at h
      rw [splitOn, ih h.2]
      simp only [if_neg fun hc => h.1 (Eq.symm hc)]

/-- A suffix without the separator is added to the last piece of a text, which
    is empty only if the text ends with the separator or is empty itself. -/
theorem exists_splitOn {sep : Char} (text : List Char) {suffix : List Char} (h : sep ∉ suffix) :
    ∃ front last, splitOn sep text = front ++ [last] ∧
      splitOn sep (text ++ suffix) = front ++ [last ++ suffix] ∧
      (last = [] → text = [] ∨ text.getLast? = some sep) := by
  induction text with
  | nil => exact ⟨[], [], rfl, splitOn_of_not_mem h, fun _ => Or.inl rfl⟩
  | cons c rest ih =>
      rcases ih with ⟨front, last, hrest, hmore, hlast⟩
      have hend : last = [] → rest ≠ [] → (c :: rest).getLast? = some sep := by
        intro hempty hne
        rcases hlast hempty with hnil | hsep
        · exact absurd hnil hne
        · rw [List.getLast?_cons, hsep]
          rfl
      by_cases hc : c = sep
      · -- The separator opens a new piece in front of the others.
        refine ⟨[] :: front, last, ?_, ?_, ?_⟩
        · cases front <;> simp [splitOn, hrest, hc]
        · cases front <;> simp [splitOn, hmore, hc]
        · intro hempty
          by_cases hrest' : rest = []
          · rw [hrest', hc]
            exact Or.inr rfl
          · exact Or.inr (hend hempty hrest')
      · cases front with
        | nil =>
            refine ⟨[], c :: last, ?_, ?_, ?_⟩
            · simp [splitOn, hrest, hc]
            · simp [splitOn, hmore, hc]
            · intro hempty
              cases hempty
        | cons piece pieces =>
            refine ⟨(c :: piece) :: pieces, last, ?_, ?_, ?_⟩
            · simp [splitOn, hrest, hc]
            · simp [splitOn, hmore, hc]
            · intro hempty
              refine Or.inr (hend hempty ?_)
              rintro rfl
              cases pieces <;> cases hrest

end Text

namespace Path

/-- A path that does not end in a slash has a last name, and a suffix without
    a slash is added to that name. -/
theorem exists_names {path suffix : String} (hne : path.isEmpty = false)
    (hfolder : wantsFolder path = false) (hsuffix : '/' ∉ suffix.toList) :
    ∃ front last, names path = front ++ [last] ∧
      names (path ++ suffix) = front ++ [last ++ suffix.toList] := by
  rcases Text.exists_splitOn path.toList hsuffix with ⟨front, last, hpath, hmore, hlast⟩
  have hlast' : last ≠ [] := by
    intro hempty
    rcases hlast hempty with hnil | hslash
    · simp [String.toList_eq_nil_iff.mp hnil] at hne
    · simp [wantsFolder, hslash] at hfolder
  refine ⟨front.filter fun name => !name.isEmpty, last, ?_, ?_⟩
  · simp [names, hpath, hlast']
  · simp [names, String.toList_append, hmore, hlast']

end Path

namespace Disk

variable {disk : Disk}

/-- A directory that holds the working directory is always there. -/
theorem node?_of_above {place : Place} (h : place <+: disk.home) :
    disk.node? place = some .folder := by
  rw [node?, if_pos (List.isPrefixOf_iff_prefix.mpr h)]

/-- Other places are as they were after a node was put somewhere. -/
theorem node?_put_of_ne {place other : Place} (h : other ≠ place) (node : Node) :
    (disk.put place node).node? other = disk.node? other := by
  by_cases hhome : other.isPrefixOf disk.home = true
  · have hprefix := List.isPrefixOf_iff_prefix.mp hhome
    rw [node?_of_above hprefix]
    exact node?_of_above hprefix
  · rw [node?_put _ _ _ _ (Bool.eq_false_iff.mpr hhome), if_neg h]

/-- A node that was put where no directory stands is there. -/
theorem node?_put_self {place : Place} (h : disk.node? place ≠ some .folder) (node : Node) :
    (disk.put place node).node? place = some node := by
  have hhome : place.isPrefixOf disk.home = false := by
    rw [Bool.eq_false_iff]
    intro hprefix
    exact h (node?_of_above (List.isPrefixOf_iff_prefix.mp hprefix))
  rw [node?_put _ _ _ _ hhome, if_pos rfl]

section Walking

variable {here place : Place} {node : Node}

theorem locate_nil_iff :
    disk.locate here [] = .ok (place, node) ↔ place = here ∧ disk.node? here = some node := by
  unfold locate
  cases disk.node? here with
  | none => simp
  | some there => simp [eq_comm]

/-- A name is looked up in a directory. -/
theorem locate_cons_iff {name : List Char} {rest : List (List Char)} :
    disk.locate here (name :: rest) = .ok (place, node) ↔
      disk.node? here = some .folder ∧ Path.isLongName name = false ∧
        disk.locate (here.enter name) rest = .ok (place, node) := by
  rw [locate]
  cases hnode : disk.node? here with
  | none => simp
  | some there =>
      cases there with
      | file mode bytes => simp
      | folder => cases hname : Path.isLongName name <;> simp

/-- A walk finds what stands at its end. -/
theorem node?_of_locate {names : List (List Char)}
    (h : disk.locate here names = .ok (place, node)) : disk.node? place = some node := by
  induction names generalizing here with
  | nil =>
      rcases locate_nil_iff.mp h with ⟨rfl, hnode⟩
      exact hnode
  | cons name rest ih => exact ih (locate_cons_iff.mp h).2.2

/-- The last name of a walk is looked up in the directory that the others lead
    to. -/
theorem locate_concat_iff {front : List (List Char)} {name : List Char} :
    disk.locate here (front ++ [name]) = .ok (place, node) ↔
      ∃ folder, disk.locate here front = .ok (folder, .folder) ∧ Path.isLongName name = false ∧
        place = folder.enter name ∧ disk.node? place = some node := by
  induction front generalizing here with
  | nil =>
      simp only [List.nil_append, locate_cons_iff, locate_nil_iff]
      constructor
      · rintro ⟨hhere, hname, rfl, hnode⟩
        exact ⟨here, ⟨rfl, hhere⟩, hname, rfl, hnode⟩
      · rintro ⟨folder, ⟨rfl, hhere⟩, hname, rfl, hnode⟩
        exact ⟨hhere, hname, rfl, hnode⟩
  | cons first rest ih =>
      simp only [List.cons_append, locate_cons_iff, ih]
      constructor
      · rintro ⟨hhere, hfirst, folder, hrest, hmore⟩
        exact ⟨folder, ⟨hhere, hfirst, hrest⟩, hmore⟩
      · rintro ⟨folder, ⟨hhere, hfirst, hrest⟩, hmore⟩
        exact ⟨hhere, hfirst, folder, hrest, hmore⟩

/-- A place that stands below directories only. -/
def Rooted (disk : Disk) (place : Place) : Prop :=
  ∀ above, above <+: place → above ≠ place → disk.node? above = some .folder

theorem rooted_origin (path : String) : disk.Rooted (disk.origin path) := by
  intro above habove hne
  unfold origin at habove hne
  split at habove
  · rename_i habsolute
    rw [if_pos habsolute] at hne
    exact absurd (List.prefix_nil.mp habove) hne
  · exact node?_of_above habove

/-- Whatever name is entered, what stands above the next place are
    directories. -/
theorem Rooted.enter (h : disk.Rooted here) (hhere : disk.node? here = some .folder)
    (name : List Char) : disk.Rooted (here.enter name) := by
  -- Any place on the way to the directory is one, the directory included.
  have hall : ∀ above, above <+: here → disk.node? above = some .folder := by
    intro above habove
    by_cases heq : above = here
    · exact heq ▸ hhere
    · exact h above habove heq
  intro above habove hne
  unfold Place.enter at habove hne
  split at habove
  · exact hall above habove
  · split at habove
    · exact hall above (habove.trans (List.dropLast_prefix here))
    · rename_i hdot hup
      rw [if_neg hdot, if_neg hup] at hne
      rcases List.prefix_concat_iff.mp habove with heq | hprefix
      · exact absurd heq hne
      · exact hall above hprefix

theorem Rooted.locate {names : List (List Char)} (h : disk.Rooted here)
    (hwalk : disk.locate here names = .ok (place, node)) : disk.Rooted place := by
  induction names generalizing here with
  | nil =>
      rcases locate_nil_iff.mp hwalk with ⟨rfl, -⟩
      exact h
  | cons name rest ih =>
      rcases locate_cons_iff.mp hwalk with ⟨hhere, -, hrest⟩
      exact ih (h.enter hhere name) hrest

/-- A walk to a directory is not disturbed by a file that is put where no
    directory stands. -/
theorem locate_put {names : List (List Char)} {at_ : Place} (mode : Nat) (bytes : List UInt8)
    (hat : disk.node? at_ ≠ some .folder) (hwalk : disk.locate here names = .ok (place, .folder)) :
    (disk.put at_ (.file mode bytes)).locate here names = .ok (place, .folder) := by
  have hkeep : ∀ {other : Place}, disk.node? other = some .folder →
      (disk.put at_ (.file mode bytes)).node? other = some .folder := by
    intro other hother
    rw [node?_put_of_ne, hother]
    rintro rfl
    exact hat hother
  induction names generalizing here with
  | nil =>
      rcases locate_nil_iff.mp hwalk with ⟨rfl, hfolder⟩
      exact locate_nil_iff.mpr ⟨rfl, hkeep hfolder⟩
  | cons name rest ih =>
      rcases locate_cons_iff.mp hwalk with ⟨hhere, hname, hrest⟩
      exact locate_cons_iff.mpr ⟨hkeep hhere, hname, ih hrest⟩

end Walking

/-- The names of a path lead to a directory, and the last one names an entry in
    it. -/
def Way (disk : Disk) (path : String) (place : Place) : Prop :=
  ∃ front name folder, Path.names path = front ++ [name] ∧
    disk.locate (disk.origin path) front = .ok (folder, .folder) ∧
    Path.isLongName name = false ∧ name ≠ ['.'] ∧ name ≠ Place.up ∧ place = folder ++ [name]

/-- A path that names an entry of a directory. Whether anything stands there is
    left open. -/
structure EntryAt (disk : Disk) (path : String) (place : Place) : Prop where
  noNul : Path.hasNul path = false
  nonempty : path.isEmpty = false
  short : Path.isTooLong path = false
  noSlash : Path.wantsFolder path = false
  way : disk.Way path place

section Entries

variable {path : String} {place : Place} {mode : Nat} {bytes : List UInt8}

theorem origin_above (path : String) : disk.origin path <+: disk.home := by
  unfold origin
  split
  · exact List.nil_prefix
  · exact List.prefix_rfl

/-- The last name of a path to a file is the name of the file. -/
theorem locate_file_iff :
    disk.locate (disk.origin path) (Path.names path) = .ok (place, .file mode bytes) ↔
      disk.Way path place ∧ disk.node? place = some (.file mode bytes) := by
  constructor
  · intro h
    refine ⟨?_, node?_of_locate h⟩
    rcases List.eq_nil_or_concat (Path.names path) with hnil | ⟨front, name, hnames⟩
    · -- Without a name the walk ends where it starts, in a directory.
      rw [hnil, locate_nil_iff, node?_of_above (origin_above path)] at h
      cases h.2
    · rw [List.concat_eq_append] at hnames
      rw [hnames, locate_concat_iff] at h
      rcases h with ⟨folder, hfront, hname, hplace, hnode⟩
      have hfolder : disk.node? folder = some .folder := node?_of_locate hfront
      have hdot : name ≠ ['.'] := by
        -- A dot would lead to the directory itself.
        rintro rfl
        rw [hplace] at hnode
        exact absurd (hnode.symm.trans hfolder) (by simp)
      have hup : name ≠ Place.up := by
        -- Two dots would lead to the directory above it, or to the root again.
        rintro rfl
        have habove : disk.node? folder.dropLast = some .folder := by
          by_cases heq : folder.dropLast = folder
          · rw [heq]
            exact hfolder
          · exact (rooted_origin path).locate hfront _ (List.dropLast_prefix folder) heq
        rw [hplace] at hnode
        exact absurd (hnode.symm.trans habove) (by simp)
      refine ⟨front, name, folder, hnames, hfront, hname, hdot, hup, ?_⟩
      rw [hplace, Place.enter, if_neg hdot, if_neg hup]
  · rintro ⟨⟨front, name, folder, hnames, hfront, hname, hdot, hup, rfl⟩, hnode⟩
    rw [hnames, locate_concat_iff]
    refine ⟨folder, hfront, hname, ?_, hnode⟩
    rw [Place.enter, if_neg hdot, if_neg hup]

/-- A refusal that comes first has not come if there is a result. -/
theorem ite_error_eq_ok_iff {α ε : Type} {p : Prop} [Decidable p] {error : ε}
    {result : Except ε α} {value : α} :
    (if p then .error error else result) = Except.ok value ↔ ¬ p ∧ result = .ok value := by
  split <;> simp [*]

/-- A path leads to a file exactly if it names an entry and the file is
    there. -/
theorem resolve_eq_file_iff :
    disk.resolve path = .ok (place, .file mode bytes) ↔
      disk.EntryAt path place ∧ disk.node? place = some (.file mode bytes) := by
  simp only [resolve, ite_error_eq_ok_iff, Bool.not_eq_true]
  constructor
  · rintro ⟨hnul, hempty, hlong, h⟩
    split at h
    · rename_i there mode' bytes' hwalk
      rw [ite_error_eq_ok_iff, Bool.not_eq_true] at h
      rcases h with ⟨hslash, heq⟩
      cases heq
      rcases locate_file_iff.mp hwalk with ⟨hway, hnode⟩
      exact ⟨⟨hnul, hempty, hlong, hslash, hway⟩, hnode⟩
    · -- Anything else that is found is no file.
      rename_i hother
      exact absurd h (hother place mode bytes)
  · rintro ⟨⟨hnul, hempty, hlong, hslash, hway⟩, hnode⟩
    have hwalk := locate_file_iff.mpr ⟨hway, hnode⟩
    simp only [hwalk, hslash, Bool.false_eq_true, if_false, and_true]
    exact ⟨hnul, hempty, hlong⟩

/-- A file can be renamed to a path exactly if the path names an entry and no
    directory is there. -/
theorem destination_eq_ok_iff :
    disk.destination path = .ok place ↔
      disk.EntryAt path place ∧ disk.node? place ≠ some .folder := by
  simp only [destination, ite_error_eq_ok_iff, Bool.not_eq_true]
  constructor
  · rintro ⟨hnul, hempty, hlong, h⟩
    rcases List.eq_nil_or_concat (Path.names path) with hnil | ⟨front, name, hnames⟩
    · simp [hnil] at h
    · rw [List.concat_eq_append] at hnames
      simp only [hnames, List.getLast?_concat, List.dropLast_concat] at h
      split at h
      · cases h
      · cases h
      · rename_i folder hfront
        simp only [ite_error_eq_ok_iff, Bool.not_eq_true, not_or] at h
        rcases h with ⟨⟨hdot, hup⟩, hname, hslash, hnode, heq⟩
        cases heq
        exact ⟨⟨hnul, hempty, hlong, hslash, front, name, folder, hnames, hfront, hname, hdot, hup,
          rfl⟩, hnode⟩
  · rintro ⟨⟨hnul, hempty, hlong, hslash, front, name, folder, hnames, hfront, hname, hdot, hup,
      rfl⟩, hnode⟩
    simp [hnul, hempty, hlong, hnames, hfront, hdot, hup, hname, hslash, hnode]

/-- A path names one entry only. -/
theorem EntryAt.unique {other : Place} (h : disk.EntryAt path place)
    (hother : disk.EntryAt path other) : place = other := by
  rcases h.way with ⟨front, name, folder, hnames, hfront, -, -, -, rfl⟩
  rcases hother.way with ⟨front', name', folder', hnames', hfront', -, -, -, rfl⟩
  rw [hnames] at hnames'
  rcases List.append_inj' hnames' rfl with ⟨rfl, hname⟩
  rw [hfront] at hfront'
  cases hfront'
  rw [hname]

/-- Entries are named as before after a file was put where no directory
    stands. -/
theorem EntryAt.put {at_ : Place} (h : disk.EntryAt path place)
    (hat : disk.node? at_ ≠ some .folder) (mode : Nat) (bytes : List UInt8) :
    (disk.put at_ (.file mode bytes)).EntryAt path place := by
  rcases h with ⟨hnul, hempty, hlong, hslash, front, name, folder, hnames, hfront, hname, hdot, hup,
    hplace⟩
  exact ⟨hnul, hempty, hlong, hslash, front, name, folder, hnames,
    locate_put mode bytes hat hfront, hname, hdot, hup, hplace⟩

/-- What was put at an entry is what its path leads to. -/
theorem EntryAt.resolve_put (h : disk.EntryAt path place)
    (hplace : disk.node? place ≠ some .folder) (mode : Nat) (bytes : List UInt8) :
    (disk.put place (.file mode bytes)).resolve path = .ok (place, .file mode bytes) :=
  resolve_eq_file_iff.mpr ⟨h.put hplace mode bytes, node?_put_self hplace _⟩

/-- A path leads to the same file as before after a file was put somewhere
    else. -/
theorem resolve_put_of_ne {at_ : Place} (h : disk.resolve path = .ok (place, .file mode bytes))
    (hat : disk.node? at_ ≠ some .folder) (hne : place ≠ at_) (mode' : Nat)
    (bytes' : List UInt8) :
    (disk.put at_ (.file mode' bytes')).resolve path = .ok (place, .file mode bytes) := by
  rcases resolve_eq_file_iff.mp h with ⟨hentry, hnode⟩
  refine resolve_eq_file_iff.mpr ⟨hentry.put hat mode' bytes', ?_⟩
  rw [node?_put_of_ne hne, hnode]

/-- A suffix leads to another entry. -/
theorem EntryAt.ne_of_suffix {suffix : String} {saved : Place} (h : disk.EntryAt path place)
    (hsaved : disk.EntryAt (path ++ suffix) saved) (hne : suffix.isEmpty = false)
    (hslash : '/' ∉ suffix.toList) : saved ≠ place := by
  rcases Path.exists_names h.nonempty h.noSlash hslash with ⟨front, last, hpath, hmore⟩
  rcases h.way with ⟨front₁, name₁, folder₁, hnames₁, hfront₁, -, -, -, rfl⟩
  rcases hsaved.way with ⟨front₂, name₂, folder₂, hnames₂, hfront₂, -, -, -, rfl⟩
  intro heq
  -- The last names of the two places would be the same.
  rw [hpath] at hnames₁
  rw [hmore] at hnames₂
  have hname₁ : last = name₁ := by simpa using (List.append_inj' hnames₁ rfl).2
  have hname₂ : last ++ suffix.toList = name₂ := by simpa using (List.append_inj' hnames₂ rfl).2
  have hname : name₂ = name₁ := by simpa using (List.append_inj' heq rfl).2
  have hnil : suffix.toList = [] := by
    rw [← hname₁, ← hname₂] at hname
    exact List.append_right_eq_self.mp hname
  simp [String.toList_eq_nil_iff.mp hnil] at hne

end Entries

/-- The bytes of the file that a path leads to. -/
theorem read_eq_ok_iff {path : String} {bytes : List UInt8} :
    disk.read path = .ok bytes ↔
      ∃ place mode, disk.resolve path = .ok (place, .file mode bytes) := by
  unfold read
  cases disk.resolve path with
  | error fault => simp
  | ok found =>
      rcases found with ⟨place, node⟩
      cases node <;> simp

end Disk

end Rerun
