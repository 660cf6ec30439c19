import Rerun.Backup
import Rerun.Proofs.Places

/-!
# Replacing Files on a Failing Machine

What becomes of the tree when a file is replaced and any of the steps may
fail. A temporary file is no part of the tree, and only the last step of
replacing a file touches the tree. Whatever goes wrong before that leaves the
tree as it was, and the temporary file is removed in any case (`run_replace`).
Nothing fails without a reason: either the tree has no room for the file, or a
step went wrong that was to go wrong (`Refusal`).

Saving a target puts two such replacements in a row, with a reading in
between. `Saving` lists the ways in which it can end, each with the tree that
is left behind, and `saving_save` says that there are no others. The backup
that is read back is the one that was written, so its checksum is right, and
the only way to fail there is that the reading itself goes wrong. Before all
this the permission bits of the target are asked for. If the question fails,
the two files receive the bits of any new file, and saving goes on
(`World.keptMode`).

## Main definitions

* `World.keptMode`: The permission bits that replaced files receive.
* `Refusal`: Why a file could not be replaced.
* `Backup.Saving`: The ways in which saving can end.

## Theorems

* `run_bind`: A command is run step by step.
* `World.step_cases`: A step fails, or is made.
* `World.read_eq`, `World.mode_eq`: What a reading and a question give.
* `Backup.run_replace`: A file is replaced, or nothing has changed.
* `Backup.run_keep`: How writing the backup can end.
* `Backup.saving_save`: How saving can end.
-/

namespace Rerun

/-- A command is run step by step. -/
theorem run_bind {α β : Type} (action : Simulation α) (next : α → Simulation β) (world : World) :
    (action >>= next).run world = (next (action.run world).1).run (action.run world).2 :=
  rfl

section Requests

variable (path : String) (record : Record) (spare : Spare) (world : World)

@[simp]
theorem run_read : (Host.read path : Simulation _).run world = world.read path := rfl

@[simp]
theorem run_mode : (Host.mode path : Simulation _).run world = world.mode path := rfl

@[simp]
theorem run_create : (Host.create path : Simulation _).run world = world.create path := rfl

@[simp]
theorem run_discard :
    (Host.discard spare : Simulation _).run world = ((), world.discard spare) := rfl

@[simp]
theorem run_log : (Host.log record : Simulation _).run world = ((), world.log record) := rfl

end Requests

/-- Why a file could not be replaced: a step went wrong that was to go wrong, no
    temporary file can be made next to the path, or none can be renamed to
    it. -/
inductive Refusal (disk : Disk) (mishaps : List (Option Fault)) (path : String) (fault : Fault) :
    Prop where
  | mishap : some fault ∈ mishaps → Refusal disk mishaps path fault
  | unstaged : disk.stage path = .error fault → Refusal disk mishaps path fault
  | unplaced : disk.destination path = .error fault → Refusal disk mishaps path fault

theorem Refusal.mono {disk : Disk} {fewer mishaps : List (Option Fault)} {path : String}
    {fault : Fault} (h : Refusal disk fewer path fault) (hsub : fewer ⊆ mishaps) :
    Refusal disk mishaps path fault := by
  cases h with
  | mishap hmem => exact .mishap (hsub hmem)
  | unstaged hstage => exact .unstaged hstage
  | unplaced hplace => exact .unplaced hplace

namespace World

variable {world : World}

/-- A step of replacing a file fails with a mishap, or is made. Either way one
    mishap less is to come. -/
theorem step_cases {α : Type} (act : World → Except Fault α × World) (world : World) :
    ∃ mishaps, mishaps ⊆ world.mishaps ∧
      ((∃ fault, some fault ∈ world.mishaps ∧
        step act world = (.error fault, { world with mishaps })) ∨
      step act world = act { world with mishaps }) := by
  unfold step draw
  cases hmishaps : world.mishaps with
  | nil => exact ⟨[], List.Subset.refl _, Or.inr rfl⟩
  | cons mishap later =>
      refine ⟨later, List.subset_cons_self mishap later, ?_⟩
      cases mishap with
      | none => exact Or.inr rfl
      | some fault => exact Or.inl ⟨fault, List.mem_cons_self, rfl⟩

/-- A reading gives what the tree holds, unless it goes wrong. -/
theorem read_eq (world : World) (path : String) :
    world.read path =
      (match world.misread? 0 with
        | some fault => .error fault
        | none => world.disk.read path,
        { world with misreads := world.misreads.tail }) := by
  unfold read misread? draw
  cases world.misreads with
  | nil => rfl
  | cons misread later => cases misread <;> rfl

/-- A question gives the permission bits in the tree, unless it goes wrong. -/
theorem mode_eq (world : World) (path : String) :
    world.mode path =
      (match world.lapse? 0 with
        | some fault => .error fault
        | none => world.disk.mode path,
        { world with lapses := world.lapses.tail }) := by
  unfold mode lapse? draw
  cases world.lapses with
  | nil => rfl
  | cons lapse later => cases lapse <;> rfl

/-- The permission bits that files receive which replace the one at a path, or
    stand in for it: those that it has, or those of any new file if the
    question for them fails. -/
def keptMode (world : World) (path : String) : Nat :=
  (world.mode path).1.toOption.getD Disk.defaultMode

/-- Once a file has been read, the next misread is the one after it. -/
theorem misread?_tail (world : World) (others : Nat) :
    misread? { world with misreads := world.misreads.tail } others =
      world.misread? (others + 1) := by
  simp [misread?]

/-- Asking for a temporary file takes a number in any case, and makes the file
    or changes nothing else. -/
theorem create_cases (world : World) (path : String) :
    ∃ mishaps, mishaps ⊆ world.mishaps ∧
      ((∃ fault, Refusal world.disk world.mishaps path fault ∧ world.create path =
        (.error fault, { world with mishaps, requested := world.requested + 1 })) ∨
      (∃ spare, world.create path =
        (.ok spare, { world with
          mishaps
          requested := world.requested + 1
          drafts := ⟨spare, Disk.defaultMode, []⟩ :: world.drafts }))) := by
  unfold create
  rcases step_cases _ { world with requested := world.requested + 1 } with
    ⟨mishaps, hsub, ⟨fault, hmem, heq⟩ | heq⟩
  · exact ⟨mishaps, hsub, Or.inl ⟨fault, .mishap hmem, heq⟩⟩
  · refine ⟨mishaps, hsub, ?_⟩
    rw [heq]
    cases hstage : world.disk.stage path with
    | error fault => exact Or.inl ⟨fault, .unstaged hstage, rfl⟩
    | ok _ => exact Or.inr ⟨⟨path, world.requested⟩, rfl⟩

variable {draft : Draft} {rest : List Draft}

/-- The youngest temporary file is changed, or nothing is. -/
theorem alter_cases (hdrafts : world.drafts = draft :: rest) (change : Draft → Draft) :
    ∃ mishaps, mishaps ⊆ world.mishaps ∧
      ((∃ fault, some fault ∈ world.mishaps ∧
        world.alter draft.spare change = (.error fault, { world with mishaps })) ∨
      world.alter draft.spare change =
        (.ok (), { world with mishaps, drafts := change draft :: rest })) := by
  rcases step_cases (fun world : World =>
    (Except.ok (), { world with drafts := Draft.alter draft.spare change world.drafts })) world with
    ⟨mishaps, hsub, hfails | heq⟩
  · exact ⟨mishaps, hsub, Or.inl hfails⟩
  · refine ⟨mishaps, hsub, Or.inr (heq.trans ?_)⟩
    rw [hdrafts, Draft.alter, if_pos rfl]

/-- The youngest temporary file takes its place in the tree, or nothing has
    changed. -/
theorem rename_cases (hdrafts : world.drafts = draft :: rest) (path : String) :
    ∃ mishaps, mishaps ⊆ world.mishaps ∧
      ((∃ fault, Refusal world.disk world.mishaps path fault ∧
        world.rename draft.spare path = (.error fault, { world with mishaps })) ∨
      (∃ place, world.disk.destination path = .ok place ∧
        world.rename draft.spare path = (.ok (), { world with
          disk := world.disk.put place (.file draft.mode draft.bytes)
          mishaps
          drafts := rest }))) := by
  unfold rename
  rcases step_cases _ world with ⟨mishaps, hsub, ⟨fault, hmem, heq⟩ | heq⟩
  · exact ⟨mishaps, hsub, Or.inl ⟨fault, .mishap hmem, heq⟩⟩
  · refine ⟨mishaps, hsub, ?_⟩
    rw [heq]
    have hfind : world.drafts.find? (fun other => other.spare == draft.spare) = some draft := by
      simp [hdrafts]
    have hremove : Draft.remove draft.spare world.drafts = rest := by
      rw [hdrafts, Draft.remove, if_pos rfl]
    simp only [hfind, hremove]
    cases hplace : world.disk.destination path with
    | error fault => exact Or.inl ⟨fault, .unplaced hplace, rfl⟩
    | ok place => exact Or.inr ⟨place, rfl, rfl⟩

end World

namespace Backup

/-- A step that fails ends the work on a temporary file. -/
theorem run_seq (first : Simulation (Except Fault Unit)) (next : ExceptT Fault Simulation Unit)
    (world : World) :
    (do ExceptT.mk first; next : ExceptT Fault Simulation Unit).run.run world =
      match first.run world with
      | (.error fault, after) => (.error fault, after)
      | (.ok (), after) => next.run.run after := by
  change StateT.run (first >>= ExceptT.bindCont fun _ => next) world = _
  rw [run_bind]
  rcases first.run world with ⟨result, after⟩
  cases result <;> rfl

/-- The ways in which the work on the youngest temporary file can end. It
    fails for a reason, and then the file is still there and the tree is as it
    was, or the file takes its place. -/
def Settles (world : World) (spare : Spare) (rest : List Draft) (path : String) (node : Node)
    (run : Except Fault Unit × World) : Prop :=
  ∃ mishaps, mishaps ⊆ world.mishaps ∧
    ((∃ fault draft, Refusal world.disk world.mishaps path fault ∧ draft.spare = spare ∧
      run = (.error fault, { world with mishaps, drafts := draft :: rest })) ∨
    (∃ place, world.disk.destination path = .ok place ∧
      run = (.ok (), { world with
        disk := world.disk.put place node
        mishaps
        drafts := rest })))

section Settling

variable {world : World} {spare : Spare} {draft : Draft} {rest : List Draft} {path : String}

/-- Changing a temporary file before the work on it goes on. -/
theorem settles_alter {node : Node} (hdrafts : world.drafts = draft :: rest)
    (hspare : draft.spare = spare) (change : Draft → Draft) (next : ExceptT Fault Simulation Unit)
    (hnext : ∀ mishaps, Settles { world with mishaps, drafts := change draft :: rest } spare
      rest path node (next.run.run { world with mishaps, drafts := change draft :: rest })) :
    Settles world spare rest path node
      ((do ExceptT.mk fun world => world.alter spare change; next :
        ExceptT Fault Simulation Unit).run.run world) := by
  subst hspare
  rw [run_seq]
  rcases World.alter_cases hdrafts change with ⟨mishaps, hsub, ⟨fault, hmem, heq⟩ | heq⟩
  · refine ⟨mishaps, hsub, Or.inl ⟨fault, draft, .mishap hmem, rfl, ?_⟩⟩
    rw [StateT.run, heq, ← hdrafts]
  · rw [StateT.run, heq]
    -- A later mishap is one of those that were to come before.
    rcases hnext mishaps with ⟨fewer, hfewer, ⟨fault, left, hrefusal, hleft⟩ | hdone⟩
    · exact ⟨fewer, List.Subset.trans hfewer hsub, Or.inl ⟨fault, left, hrefusal.mono hsub, hleft⟩⟩
    · exact ⟨fewer, List.Subset.trans hfewer hsub, Or.inr hdone⟩

theorem settles_rename (hdrafts : world.drafts = draft :: rest) (hspare : draft.spare = spare) :
    Settles world spare rest path (.file draft.mode draft.bytes) (world.rename spare path) := by
  subst hspare
  rcases World.rename_cases hdrafts path with ⟨mishaps, hsub, ⟨fault, hrefusal, heq⟩ | hdone⟩
  · refine ⟨mishaps, hsub, Or.inl ⟨fault, draft, hrefusal, rfl, ?_⟩⟩
    rw [heq, ← hdrafts]
  · exact ⟨mishaps, hsub, Or.inr hdone⟩

/-- The work on a new temporary file ends in one of these ways. -/
theorem settles_settle (hdrafts : world.drafts = ⟨spare, Disk.defaultMode, []⟩ :: rest)
    (path : String) (bytes : List UInt8) (mode : Option Nat) :
    Settles world spare rest path (.file (mode.getD Disk.defaultMode) bytes)
      ((settle spare path bytes mode : ExceptT Fault Simulation Unit).run.run world) := by
  have hyoungest : ∀ (draft : Draft) mishaps,
      ({ world with mishaps, drafts := draft :: rest } : World).drafts = draft :: rest :=
    fun _ _ => rfl
  refine settles_alter hdrafts rfl _ _ fun filled => ?_
  refine settles_alter (hyoungest ⟨spare, Disk.defaultMode, bytes⟩ filled) rfl _ _ fun synced => ?_
  -- The bits are set only if they are known.
  cases mode with
  | none => exact settles_rename (hyoungest ⟨spare, Disk.defaultMode, bytes⟩ synced) rfl
  | some mode =>
      refine settles_alter (hyoungest ⟨spare, Disk.defaultMode, bytes⟩ synced) rfl _ _ fun set => ?_
      exact settles_rename (hyoungest ⟨spare, mode, bytes⟩ set) rfl

end Settling

/-- A file is replaced as a whole, or the tree is as it was. No temporary file
    stays behind. -/
theorem run_replace (path : String) (bytes : List UInt8) (mode : Option Nat) (world : World) :
    ∃ mishaps, mishaps ⊆ world.mishaps ∧
      ((∃ fault, Refusal world.disk world.mishaps path fault ∧
        (replace path bytes mode : Simulation _).run world =
          (.error fault, { world with mishaps, requested := world.requested + 1 })) ∨
      (∃ place, world.disk.destination path = .ok place ∧
        (replace path bytes mode : Simulation _).run world =
          (.ok (), { world with
            disk := world.disk.put place (.file (mode.getD Disk.defaultMode) bytes)
            mishaps
            requested := world.requested + 1 }))) := by
  unfold replace
  rw [run_bind, run_create]
  rcases World.create_cases world path with
    ⟨mishaps, hsub, ⟨fault, hrefusal, hcreate⟩ | ⟨spare, hcreate⟩⟩
  · exact ⟨mishaps, hsub, Or.inl ⟨fault, hrefusal, by rw [hcreate]; rfl⟩⟩
  · simp only [hcreate, run_bind]
    have hdrafts : ({ world with
        mishaps
        requested := world.requested + 1
        drafts := ⟨spare, Disk.defaultMode, []⟩ :: world.drafts } : World).drafts =
          ⟨spare, Disk.defaultMode, []⟩ :: world.drafts := rfl
    rcases settles_settle hdrafts path bytes mode with
      ⟨fewer, hfewer, ⟨fault, draft, hrefusal, hspare, heq⟩ | ⟨place, hplace, heq⟩⟩
    · refine ⟨fewer, List.Subset.trans hfewer hsub, Or.inl ⟨fault, hrefusal.mono hsub, ?_⟩⟩
      rw [heq]
      simp only [run_bind, run_discard, World.discard, Draft.remove, if_pos hspare]
      rfl
    · refine ⟨fewer, List.Subset.trans hfewer hsub, Or.inr ⟨place, hplace, ?_⟩⟩
      rw [heq]
      rfl

/-- What is read back is what was saved. -/
theorem verify_self (content : List UInt8) : verify content content = .ok () := by
  simp [verify]

/-- Writing the backup changes nothing, or the content is in its place. It is
    read back then, and this goes wrong only if the reading does. -/
theorem run_keep (backup : String) (content : List UInt8) (mode : Option Nat) (world : World) :
    ∃ mishaps, mishaps ⊆ world.mishaps ∧
      ((∃ fault, Refusal world.disk world.mishaps backup fault ∧
        (keep backup content mode : Simulation _).run world =
          (.error (.unwritable fault),
            { world with mishaps, requested := world.requested + 1 })) ∨
      (∃ place, world.disk.destination backup = .ok place ∧
        (keep backup content mode : Simulation _).run world =
          (match world.misread? 0 with
            | some fault => .error (.unreadable fault)
            | none => .ok (),
            { world with
              disk := world.disk.put place (.file (mode.getD Disk.defaultMode) content)
              misreads := world.misreads.tail
              mishaps
              requested := world.requested + 1 }))) := by
  unfold keep
  rw [run_bind]
  rcases run_replace backup content mode world with
    ⟨mishaps, hsub, ⟨fault, hrefusal, heq⟩ | ⟨place, hplace, heq⟩⟩
  · exact ⟨mishaps, hsub, Or.inl ⟨fault, hrefusal, by rw [heq]; rfl⟩⟩
  · refine ⟨mishaps, hsub, Or.inr ⟨place, hplace, ?_⟩⟩
    rcases Disk.destination_eq_ok_iff.mp hplace with ⟨hentry, hnode⟩
    have hread : (world.disk.put place (.file (mode.getD Disk.defaultMode) content)).read backup =
        .ok content :=
      Disk.read_eq_ok_iff.mpr ⟨_, _, hentry.resolve_put hnode _ _⟩
    simp only [heq, run_bind, run_read, World.read_eq, hread]
    have hmisread : World.misread? { world with
        disk := world.disk.put place (.file (mode.getD Disk.defaultMode) content)
        mishaps
        requested := world.requested + 1 } 0 = world.misread? 0 := rfl
    rw [hmisread]
    cases world.misread? 0 with
    | some fault => rfl
    | none =>
        change (verify content content, _) = _
        rw [verify_self]

/-- The ways in which saving a target can end, each with the tree that it
    leaves. They depend on the tree that was there, on the permission bits that
    are kept, on what will go wrong with the reading that verifies the backup,
    and on what will go wrong with the steps of replacing files. Where nothing
    is to go wrong and the tree has room for the two files, both are written. -/
inductive Saving (disk : Disk) (kept : Nat) (misread : Option Fault)
    (mishaps : List (Option Fault)) (target suffix : String) (content : List UInt8)
    (text : List Char) : Except Error Receipt → Disk → Prop where
  /-- The backup could not be written. -/
  | unsaved (fault : Fault) :
    Refusal disk mishaps (path target suffix) fault →
    Saving disk kept misread mishaps target suffix content text
      (.error (.backup (path target suffix) (.unwritable fault))) disk
  /-- The backup was written, but it could not be verified. -/
  | unverified (fault : Fault) (saved : Place) :
    misread = some fault → disk.destination (path target suffix) = .ok saved →
    Saving disk kept misread mishaps target suffix content text
      (.error (.backup (path target suffix) (.unreadable fault)))
      (disk.put saved (.file kept content))
  /-- The backup was written, but not the target. -/
  | unpatched (fault : Fault) (saved : Place) :
    misread = none → disk.destination (path target suffix) = .ok saved →
    Refusal (disk.put saved (.file kept content)) mishaps target fault →
    Saving disk kept misread mishaps target suffix content text
      (.error (.target target (path target suffix) fault))
      (disk.put saved (.file kept content))
  /-- Both were written. -/
  | patched (saved place : Place) :
    misread = none → disk.destination (path target suffix) = .ok saved →
    (disk.put saved (.file kept content)).destination target = .ok place →
    Saving disk kept misread mishaps target suffix content text
      (.ok ⟨target, path target suffix, Checksum.ofBytes content, Utf8.size text⟩)
      ((disk.put saved (.file kept content)).put place (.file kept (Utf8.encode text)))

/-- Saving ends in one of these ways, and no temporary file stays behind. -/
theorem saving_save (target suffix : String) (content : List UInt8) (text : List Char)
    (world : World) :
    let run := (save target suffix content text : Simulation _).run world
    Saving world.disk (world.keptMode target) (world.misread? 0) world.mishaps target suffix
        content text run.1 run.2.disk ∧
      run.2.drafts = world.drafts := by
  intro run
  have hrun : run = (save target suffix content text : Simulation _).run world := rfl
  have hasked : (world.mode target).2 = { world with lapses := world.lapses.tail } := by
    rw [World.mode_eq]
  unfold save at hrun
  rw [run_bind, run_mode, hasked] at hrun
  simp only [run_bind] at hrun
  rcases run_keep (path target suffix) content (world.mode target).1.toOption
    { world with lapses := world.lapses.tail } with
    ⟨mishaps, hsub, ⟨fault, hrefusal, heq⟩ | ⟨saved, hsaved, heq⟩⟩
  · rw [heq] at hrun
    rw [hrun]
    exact ⟨.unsaved fault hrefusal, rfl⟩
  · -- Whether the backup can be verified does not depend on the question for the bits.
    have hmisread : World.misread? { world with lapses := world.lapses.tail } 0 =
        world.misread? 0 := rfl
    rw [heq, hmisread] at hrun
    cases hverify : world.misread? 0 with
    | some fault =>
        rw [hverify] at hrun
        rw [hrun]
        exact ⟨.unverified fault saved rfl hsaved, rfl⟩
    | none =>
        rw [hverify] at hrun
        simp only [run_bind, run_log] at hrun
        rcases run_replace target (Utf8.encode text) (world.mode target).1.toOption _ with
          ⟨fewer, -, ⟨fault, hrefusal, heq'⟩ | ⟨place, hplace, heq'⟩⟩
        · rw [heq'] at hrun
          rw [hrun]
          exact ⟨.unpatched fault saved rfl hsaved (hrefusal.mono hsub), rfl⟩
        · rw [heq'] at hrun
          rw [hrun]
          exact ⟨.patched saved place rfl hsaved hplace, rfl⟩

end Backup

end Rerun
