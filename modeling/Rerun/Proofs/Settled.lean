import Rerun.Proofs.Safekeeping

/-!
# A Settled Target Stays Settled

Once a target has been patched, the commands have nothing left to do: whichever
of them are called, in whatever order and however often, nothing is written,
no edit is listed and no check complains. So the backup that the first run has
made stays the backup of what the target held before that run.

Whether a target is settled can be seen from the tree alone: it holds a script
that the patch leaves as it is. A run of patching that succeeds leaves such a
tree, whether it has written anything or not, since the patch of a patched
script changes nothing. Each call preserves the tree, so one step lemma
(`Call.run_of_settled`) and an induction over the calls give the rest.

A reading can go wrong at any time, and then the call fails. It leaves the
tree as it was even so, and the next one that works finds a settled target.

## Main definitions

* `Disk.Settled`: The tree holds a target that the patch leaves as it is.
* `Call`, `Answer`: The commands as calls, and what they answer.
* `Answer.IsIdle`: There was nothing to do.
* `Call.runAll`: One call after the other.

## Theorems

* `Script.patched_patched`: A patched script is left as it is.
* `Command.settled_of_patch`: A run of patching that succeeds settles its target.
* `Call.run_of_settled`: A call on a settled target.
* `Call.runAll_of_settled`: Calls on a settled target.
* `Command.stays_settled`: A target stays settled.
-/

namespace Rerun

/-- A patched script is left as it is by the same rules. -/
theorem Script.patched_patched (rules : Rules) (script : Script) :
    (script.patched rules).patched rules = script.patched rules := by
  have htext : ((script.patched rules).patched rules).text = (script.patched rules).text := by
    rw [text_eq_mark_append, patched_patched_body, mark_patched, ← text_eq_mark_append]
  exact congrArg Script.mk htext

/-- Nothing was changed exactly if there is no edit. -/
theorem Outcome.isChanged_eq_false_iff {outcome : Outcome} :
    outcome.isChanged = false ↔ outcome.edits = [] := by
  simp [isChanged]

/-- The tree holds a target that the patch leaves as it is. -/
def Disk.Settled (config : Config) (disk : Disk) : Prop :=
  ∃ script : Script, disk.read config.target = .ok script.bytes ∧
    (script.patch config.rules).isChanged = false

/-- What a call has answered. -/
inductive Answer where
  | patched (result : Except Error Report)
  | checked (result : Except Error CheckReport)
deriving DecidableEq, Repr

/-- There was nothing to do: no edit is listed, nothing was written, and a check
    does not complain. -/
def Answer.IsIdle : Answer → Prop
  | patched (.ok report) => report.edits = [] ∧ report.written = false
  | checked (.ok report) => report.pending = [] ∧ report.verdict = .ok ()
  | _ => False

namespace Backup

/-- After a success the target holds the new text, whatever the suffix. -/
theorem Saving.read_target {disk after : Disk} {kept : Nat} {misread : Option Fault}
    {mishaps : List (Option Fault)} {target suffix : String} {content : List UInt8}
    {text : List Char} {receipt : Receipt}
    (h : Saving disk kept misread mishaps target suffix content text (.ok receipt) after) :
    after.read target = .ok (Utf8.encode text) := by
  cases h with
  | patched saved place hmisread hsaved hplace =>
      rcases Disk.destination_eq_ok_iff.mp hplace with ⟨hentry, hnode⟩
      exact Disk.read_eq_ok_iff.mpr ⟨_, _, hentry.resolve_put hnode _ _⟩

end Backup

namespace Command

variable {config : Config} {world after : World} {report : Report}

/-- How a run of patching can have succeeded: it had nothing to write, or it has
    saved the target. -/
theorem ok_of_run_patch {dryRun : Bool}
    (h : (patch config dryRun : Simulation _).run world = (.ok report, after)) :
    ∃ script, world.disk.read config.target = .ok (Script.bytes script) ∧
      (¬ Due config dryRun script ∧ report.written = false ∧ after.disk = world.disk ∨
        ∃ receipt, Backup.Saving world.disk (world.keptMode config.target) (world.misread? 1)
          world.mishaps config.target config.suffix script.bytes (script.patch config.rules).text
          (.ok receipt) after.disk) := by
  cases hloaded : loaded world config.target with
  | error error =>
      rcases run_patch_of_error dryRun hloaded with ⟨records, hrun⟩
      rw [hrun] at h
      cases h
  | ok script =>
      refine ⟨script, (loaded_eq_ok_iff.mp hloaded).2, ?_⟩
      by_cases hdue : Due config dryRun script
      · rcases run_patch_of_due hloaded hdue with ⟨⟨result, hending, hresult⟩, -⟩
        rw [h] at hending hresult
        cases result with
        | error error => cases hresult
        | ok receipt => exact Or.inr ⟨receipt, hending⟩
      · rcases run_patch_of_not_due hloaded hdue with ⟨records, hrun⟩
        rw [hrun] at h
        cases h
        exact Or.inl ⟨hdue, rfl, rfl⟩

/-- A run of patching that succeeds settles its target. -/
theorem settled_of_patch
    (h : (patch config false : Simulation _).run world = (.ok report, after)) :
    after.disk.Settled config := by
  rcases ok_of_run_patch h with ⟨script, hread, ⟨hdue, -, hsame⟩ | ⟨receipt, hending⟩⟩
  · refine ⟨script, hsame ▸ hread, ?_⟩
    rw [← Bool.not_eq_true]
    exact fun hchanged => hdue ⟨rfl, Or.inl hchanged⟩
  · refine ⟨script.patched config.rules, hending.read_target, ?_⟩
    rw [Script.isChanged_eq_false_iff, Script.patched_patched]

/-- Patching a settled target, or trying to, does nothing. -/
theorem run_patch_of_settled (dryRun : Bool) (hskip : config.alwaysWrite = false)
    (h : world.disk.Settled config) :
    ∃ result records, (patch config dryRun : Simulation _).run world =
        (result, { world with misreads := world.misreads.tail, records }) ∧
      (world.misread? 0 = none → (Answer.patched result).IsIdle) := by
  rcases h with ⟨script, hread, hkept⟩
  cases hmisread : world.misread? 0 with
  | some fault =>
      have hloaded := loaded_of_misread hmisread config.target
      rcases run_patch_of_error dryRun hloaded with ⟨records, hrun⟩
      exact ⟨_, records, hrun, fun hnone => by cases hnone⟩
  | none =>
      have hloaded := loaded_eq_ok_iff.mpr ⟨hmisread, hread⟩
      have hdue : ¬ Due config dryRun script := by simp [Due, hkept, hskip]
      rcases run_patch_of_not_due hloaded hdue with ⟨records, hrun⟩
      exact ⟨_, records, hrun, fun _ => ⟨Outcome.isChanged_eq_false_iff.mp hkept, rfl⟩⟩

/-- Checking a settled target finds nothing. -/
theorem run_check_of_settled (h : world.disk.Settled config) :
    ∃ result records, (check config : Simulation _).run world =
        (result, { world with misreads := world.misreads.tail, records }) ∧
      (world.misread? 0 = none → (Answer.checked result).IsIdle) := by
  rcases h with ⟨script, hread, hkept⟩
  cases hmisread : world.misread? 0 with
  | some fault =>
      have hloaded := loaded_of_misread hmisread config.target
      rcases run_check_of_error hloaded with ⟨records, hrun⟩
      exact ⟨_, records, hrun, fun hnone => by cases hnone⟩
  | none =>
      have hloaded := loaded_eq_ok_iff.mpr ⟨hmisread, hread⟩
      rcases run_check_of_ok hloaded with ⟨records, hrun⟩
      refine ⟨_, records, hrun, fun _ => ⟨Outcome.isChanged_eq_false_iff.mp hkept, ?_⟩⟩
      rw [CheckReport.verdict, hkept]
      rfl

end Command

/-- A call of one of the commands. -/
inductive Call where
  | patch
  | trial
  | check
deriving DecidableEq, Repr

namespace Call

/-- Makes a call. -/
def run (config : Config) : Call → Simulation Answer
  | patch => do return .patched (← Command.patch config false)
  | trial => do return .patched (← Command.patch config true)
  | check => do return .checked (← Command.check config)

/-- Makes one call after the other. -/
def runAll (config : Config) (calls : List Call) : Simulation (List Answer) :=
  calls.mapM (run config)

variable {config : Config} {world : World}

theorem run_runAll_cons (call : Call) (calls : List Call) :
    (runAll config (call :: calls)).run world =
      let first := (call.run config).run world
      let others := (runAll config calls).run first.2
      (first.1 :: others.1, others.2) := by
  rw [runAll, List.mapM_cons]
  rfl

/-- A call on a settled target changes nothing, and finds nothing to do if the
    target can be read. -/
theorem run_of_settled (call : Call) (hskip : config.alwaysWrite = false)
    (h : world.disk.Settled config) :
    ∃ answer records, (call.run config).run world =
        (answer, { world with misreads := world.misreads.tail, records }) ∧
      (world.misread? 0 = none → answer.IsIdle) := by
  cases call with
  | patch =>
      rcases Command.run_patch_of_settled false hskip h with ⟨result, records, hrun, hidle⟩
      exact ⟨.patched result, records, by rw [run, run_bind, hrun]; rfl, hidle⟩
  | trial =>
      rcases Command.run_patch_of_settled true hskip h with ⟨result, records, hrun, hidle⟩
      exact ⟨.patched result, records, by rw [run, run_bind, hrun]; rfl, hidle⟩
  | check =>
      rcases Command.run_check_of_settled h with ⟨result, records, hrun, hidle⟩
      exact ⟨.checked result, records, by rw [run, run_bind, hrun]; rfl, hidle⟩

/-- Any number of calls on a settled target changes nothing, and each of them
    finds nothing to do if it can read the target. -/
theorem runAll_of_settled (calls : List Call) (hskip : config.alwaysWrite = false)
    (h : world.disk.Settled config) :
    let later := (runAll config calls).run world
    (later.2.disk = world.disk ∧ later.2.requested = world.requested) ∧
      later.1.length = calls.length ∧
      ∀ k answer, later.1[k]? = some answer → world.misread? k = none → answer.IsIdle := by
  induction calls generalizing world with
  | nil => exact ⟨⟨rfl, rfl⟩, rfl, fun k answer hanswer => by cases hanswer⟩
  | cons call calls ih =>
      rcases run_of_settled call hskip h with ⟨first, records, hrun, hidle⟩
      rw [run_runAll_cons, hrun]
      have hnext : Disk.Settled config
          ({ world with misreads := world.misreads.tail, records } : World).disk := h
      rcases ih hnext with ⟨hsame, hlength, hothers⟩
      refine ⟨hsame, congrArg (· + 1) hlength, fun k answer hanswer hmisread => ?_⟩
      cases k with
      | zero =>
          cases hanswer
          exact hidle hmisread
      | succ k =>
          refine hothers k answer hanswer ?_
          exact (World.misread?_tail world k).trans hmisread

end Call

namespace Command

/-- A target stays settled. After a run of patching that succeeded, and unless
    writing is asked for in any case, any calls at all leave the tree as it is
    and ask for no temporary file. So a backup that the first run has written
    under a suffix that passes still holds what the target held before. Each
    call that can read the target finds nothing to do. -/
theorem stays_settled (config : Config) (world after : World) (report : Report)
    (calls : List Call) (hskip : config.alwaysWrite = false)
    (hfirst : (patch config false : Simulation _).run world = (.ok report, after)) :
    let later := (Call.runAll config calls).run after
    (later.2.disk = after.disk ∧ later.2.requested = after.requested) ∧
      (report.written = true → config.SuffixPasses → ∃ bytes,
        world.disk.read config.target = .ok bytes ∧
          later.2.disk.read (Backup.path config.target config.suffix) = .ok bytes) ∧
      later.1.length = calls.length ∧
      ∀ k answer, later.1[k]? = some answer → after.misread? k = none → answer.IsIdle := by
  intro later
  rcases Call.runAll_of_settled calls hskip (settled_of_patch hfirst) with ⟨hsame, hanswers⟩
  refine ⟨hsame, fun hwritten hsuffix => ?_, hanswers⟩
  rcases Config.suffixPasses_iff.mp hsuffix with ⟨hne, hslash, -⟩
  rcases ok_of_run_patch hfirst with ⟨script, hread, ⟨-, hunwritten, -⟩ | ⟨receipt, hending⟩⟩
  · rw [hwritten] at hunwritten
    cases hunwritten
  · rcases Disk.read_eq_ok_iff.mp hread with ⟨place, mode, htarget⟩
    rcases hending.of_ok hne hslash htarget with ⟨saved, hbackup, -⟩
    refine ⟨script.bytes, hread, ?_⟩
    rw [show later.2.disk = after.disk from hsame.1]
    exact Disk.read_eq_ok_iff.mpr ⟨saved, _, hbackup⟩

/-- A script with two lines to change is patched, and then left alone by five
    calls. -/
theorem stays_settled_five_calls :
    let config : Config := { target := "a.sql" }
    let text := "DROP TABLE a;\nCREATE TABLE a (id INT);\n"
    let world : World :=
      { disk := Disk.empty.write "a.sql" 0o644 (Utf8.encode text.toList), environment := [] }
    let calls : List Call := [.check, .patch, .trial, .patch, .check]
    let first := (patch config false : Simulation _).run world
    let later := (Call.runAll config calls).run first.2
    (config.alwaysWrite = false ∧
        first.1.toOption.map (fun report => (report.written, report.edits.length)) =
          some (true, 2)) ∧
      later.2.disk = first.2.disk ∧
      (∃ bytes, world.disk.read config.target = .ok bytes ∧
        later.2.disk.read (Backup.path config.target config.suffix) = .ok bytes) ∧
      later.1.length = 5 ∧ ∀ (k : Nat) answer, later.1[k]? = some answer → answer.IsIdle := by
  intro config text world calls first later
  obtain ⟨hfirst, hreads⟩ :
      first.1.toOption.map (fun report => (report.written, report.edits.length)) =
        some (true, 2) ∧ first.2.misreads = [] := by decide +kernel
  have hsuffix : config.SuffixPasses := Config.suffixPasses_iff.mpr (by decide)
  have hrun : (patch config false : Simulation _).run world = first := rfl
  have hlater : later = (Call.runAll config calls).run first.2 := rfl
  clear_value first later
  rcases first with ⟨error | report, after⟩
  · cases hfirst
  · rcases stays_settled config world after report calls rfl hrun with
      ⟨⟨hsame, -⟩, hbackup, hlength, hidle⟩
    rw [hlater]
    dsimp only at hfirst ⊢
    refine ⟨⟨rfl, hfirst⟩, hsame, hbackup ?_ hsuffix, hlength, ?_⟩
    · exact congrArg Prod.fst (Option.some.inj hfirst)
    · intro k answer hanswer
      exact hidle k answer hanswer (by rw [World.misread?, hreads]; rfl)

end Command

end Rerun
