import Rerun.Proofs.Encoding
import Rerun.Proofs.LawfulHosts
import Rerun.Proofs.LinePatch

/-!
# What the Commands Have in Common

Patching, trying and checking read the same script and compute the same patch.
Here each of them is run on a world: what it answers, and what it leaves of
the world. All of them draw one reading, and all but patching change nothing
besides; patching hands over to `Backup.save` if it has something to write.

From this it follows that the commands tell one story. A check says beforehand
what patching will do: whether there is a script to work on, which lines will
change, and whether anything will be written. The link is that no edit is
recorded for a line that comes out as it went in, so a patch without edits
changes no byte, and a patch with edits changes as many lines as it has edits.

That patching attempts a write means that it ends as saving the target does
(`Command.Attempts`): the files are written, or there was a reason why one of
them could not be.

## Main definitions

* `Command.loaded`: What loading gives.
* `Command.Due`: There is something to write.
* `Command.Attempts`: A run ends as saving the target does.

## Theorems

* `Script.ofBytes_eq_ok_iff`: A script is read from the bytes it is stored as.
* `Command.run_load`, `Command.run_survey`: What loading and surveying answer
  and leave.
* `Command.run_check_of_error`, `Command.run_check_of_ok`: The same for
  checking.
* `Command.run_patch_of_error`, `Command.run_patch_of_not_due`,
  `Command.run_patch_of_due`: The same for patching.
* `Command.attempts_iff`, `Command.due_iff_verdict`: When patching attempts a
  write, and when a check complains.
* `Command.commands_agree`: The commands tell one story.
-/

namespace Rerun

namespace Script

/-- A script is read from the bytes it is stored as, and from no others. -/
theorem ofBytes_eq_ok_iff {bytes : List UInt8} {script : Script} :
    ofBytes bytes = .ok script ↔ bytes = script.bytes := by
  constructor
  · intro h
    unfold ofBytes at h
    cases htext : Utf8.decode bytes with
    | error offset =>
        rw [htext] at h
        cases h
    | ok text =>
        rw [htext] at h
        cases h
        exact (Utf8.encode_of_decode htext).symm
  · rintro rfl
    rw [ofBytes, bytes, Utf8.decode_encode]
    rfl

/-- Scripts that are stored alike are the same. -/
theorem bytes_inj {first second : Script} : first.bytes = second.bytes ↔ first = second := by
  constructor
  · intro h
    have hfirst := ofBytes_eq_ok_iff.mpr (rfl : first.bytes = first.bytes)
    rw [h, ofBytes_eq_ok_iff.mpr rfl] at hfirst
    cases hfirst
    rfl
  · rintro rfl
    rfl

/-- A patch makes no edit exactly if it changes no byte. -/
theorem isChanged_eq_false_iff (rules : Rules) (script : Script) :
    (script.patch rules).isChanged = false ↔ script.bytes = (script.patched rules).bytes := by
  rw [bytes_inj, ← Bool.not_eq_true, isChanged_iff, not_not, eq_comm]
  exact ⟨congrArg Script.mk, congrArg Script.text⟩

end Script

/-- A check complains of a script that is not idempotent, and of nothing
    else. -/
theorem CheckReport.verdict_eq_error_iff {report : CheckReport} {error : Error} :
    report.verdict = .error error ↔
      report.idempotent = false ∧ error = .pending report.target report.pending.length := by
  unfold verdict
  cases report.idempotent <;> simp [eq_comm]

namespace Command

/-- What loading a script gives. -/
def loaded (world : World) (path : String) : Except Error Script :=
  match world.misread? 0 with
  | some fault => .error (.unreadable path fault)
  | none =>
    match world.disk.read path with
    | .error fault => .error (.unreadable path fault)
    | .ok bytes => (Script.ofBytes bytes).mapError (.notUtf8 path)

/-- A script is loaded if nothing goes wrong and the file holds its bytes. -/
theorem loaded_eq_ok_iff {world : World} {path : String} {script : Script} :
    loaded world path = .ok script ↔
      world.misread? 0 = none ∧ world.disk.read path = .ok script.bytes := by
  unfold loaded
  cases world.misread? 0 with
  | some fault => simp
  | none =>
      cases world.disk.read path with
      | error fault => simp
      | ok bytes =>
          simp only [true_and, Except.ok.injEq, ← Script.ofBytes_eq_ok_iff]
          cases Script.ofBytes bytes <;> simp [Except.mapError]

theorem loaded_of_misread {world : World} {fault : Fault} (h : world.misread? 0 = some fault)
    (path : String) : loaded world path = .error (.unreadable path fault) := by
  rw [loaded, h]

/-- Loading takes one reading and leaves a record. -/
theorem run_load (path : String) (world : World) :
    ∃ records, (load path : Simulation _).run world =
      (loaded world path, { world with misreads := world.misreads.tail, records }) := by
  unfold load loaded
  rw [run_bind, run_read, World.read_eq]
  cases world.misread? 0 with
  | some fault => exact ⟨_, rfl⟩
  | none =>
      cases world.disk.read path with
      | error fault => exact ⟨_, rfl⟩
      | ok bytes =>
          simp only [run_bind, run_log]
          cases Script.ofBytes bytes <;> exact ⟨_, rfl⟩

/-- A survey leaves nothing but records. -/
theorem run_survey (config : Config) (script : Script) (world : World) :
    ∃ records, (survey config script : Simulation _).run world =
      (script.patch config.rules, { world with records }) := by
  unfold survey
  simp only [run_bind, run_log]
  cases warning? config.target (script.patch config.rules).last <;> exact ⟨_, rfl⟩

variable {config : Config} {world : World} {error : Error} {script : Script}

theorem run_check_of_error (h : loaded world config.target = .error error) :
    ∃ records, (check config : Simulation _).run world =
      (.error error, { world with misreads := world.misreads.tail, records }) := by
  unfold check
  rcases run_load config.target world with ⟨records, hload⟩
  rw [run_bind, hload, h]
  exact ⟨_, rfl⟩

theorem run_check_of_ok (h : loaded world config.target = .ok script) :
    ∃ records, (check config : Simulation _).run world =
      (.ok { target := config.target
             idempotent := !(script.patch config.rules).isChanged
             pending := (script.patch config.rules).edits },
        { world with misreads := world.misreads.tail, records }) := by
  unfold check
  rcases run_load config.target world with ⟨records, hload⟩
  rcases run_survey config script
    { world with misreads := world.misreads.tail, records } with ⟨records', hsurvey⟩
  rw [run_bind, hload, h]
  simp only [run_bind, hsurvey]
  exact ⟨_, rfl⟩

theorem run_patch_of_error (dryRun : Bool) (h : loaded world config.target = .error error) :
    ∃ records, (patch config dryRun : Simulation _).run world =
      (.error error, { world with misreads := world.misreads.tail, records }) := by
  unfold patch
  rcases run_load config.target world with ⟨records, hload⟩
  rw [run_bind, hload, h]
  exact ⟨_, rfl⟩

/-- There is something to write: writing is wanted, and something has changed
    or writing was asked for in any case. -/
def Due (config : Config) (dryRun : Bool) (script : Script) : Prop :=
  dryRun = false ∧ ((script.patch config.rules).isChanged = true ∨ config.alwaysWrite = true)

/-- A trial writes nothing. -/
theorem not_due_of_dryRun (config : Config) (script : Script) : ¬ Due config true script :=
  fun h => Bool.noConfusion h.1

/-- Patching leaves nothing but records if nothing is to be written. -/
theorem run_patch_of_not_due {dryRun : Bool} (h : loaded world config.target = .ok script)
    (hdue : ¬ Due config dryRun script) :
    ∃ records, (patch config dryRun : Simulation _).run world =
      (.ok (Report.ofOutcome config dryRun script (script.patch config.rules)),
        { world with misreads := world.misreads.tail, records }) := by
  rcases run_load config.target world with ⟨records, hload⟩
  rcases run_survey config script
    { world with misreads := world.misreads.tail, records } with ⟨records', hsurvey⟩
  unfold patch
  simp only [run_bind, hload, h, hsurvey, run_log]
  by_cases hdry : dryRun = true
  · rw [if_pos hdry]
    exact ⟨_, rfl⟩
  · have hsame : (!(script.patch config.rules).isChanged && !config.alwaysWrite) = true := by
      simp only [Due, Bool.not_eq_true] at hdue hdry
      simpa [hdry, not_or] using hdue
    rw [if_neg hdry, if_pos hsame]
    exact ⟨_, rfl⟩

/-- An answer and a tree are those of a run that attempts to write a script's
    patch: they come from one of the ways in which saving the target can end. -/
def Attempts (config : Config) (world : World) (script : Script) (answer : Except Error Report)
    (after : Disk) : Prop :=
  ∃ result : Except Error Backup.Receipt,
    Backup.Saving world.disk (world.keptMode config.target) (world.misread? 1) world.mishaps
      config.target config.suffix script.bytes (script.patch config.rules).text result after ∧
    answer = result.map fun receipt =>
      { Report.ofOutcome config false script (script.patch config.rules) with
        written := true, backup := receipt.backup, checksum := some receipt.checksum }

/-- Patching saves the target if something is to be written, and ends the way
    that ends. -/
theorem run_patch_of_due {dryRun : Bool} (h : loaded world config.target = .ok script)
    (hdue : Due config dryRun script) :
    let run := (patch config dryRun : Simulation _).run world
    Attempts config world script run.1 run.2.disk ∧ run.2.drafts = world.drafts := by
  rcases run_load config.target world with ⟨records, hload⟩
  rcases run_survey config script
    { world with misreads := world.misreads.tail, records } with ⟨records', hsurvey⟩
  rcases hdue with ⟨rfl, hchange⟩
  have hdiffers : ¬ (!(script.patch config.rules).isChanged && !config.alwaysWrite) = true := by
    rcases hchange with hchange | hchange <;> simp [hchange]
  unfold patch
  simp only [run_bind, hload, h, hsurvey, run_log, if_neg hdiffers, Bool.false_eq_true, if_false]
  -- Neither the reading nor the log has touched anything that saving looks at.
  generalize hscanned : World.log _ _ = scanned
  have hsaving := Backup.saving_save config.target config.suffix script.bytes
    (script.patch config.rules).text scanned
  have hmisread : scanned.misread? 0 = world.misread? 1 := by
    rw [← hscanned]
    exact World.misread?_tail world 0
  have hsame : scanned.disk = world.disk ∧ scanned.mishaps = world.mishaps ∧
      scanned.keptMode config.target = world.keptMode config.target ∧
      scanned.drafts = world.drafts := by
    rw [← hscanned]
    exact ⟨rfl, rfl, rfl, rfl⟩
  rcases hsame with ⟨hdisk, hmishaps, hkept, hdrafts⟩
  rw [hmisread, hdisk, hmishaps, hkept, hdrafts] at hsaving
  generalize (Backup.save config.target config.suffix script.bytes
    (script.patch config.rules).text : Simulation _).run scanned = saving at hsaving ⊢
  rcases saving with ⟨result, after⟩
  rcases hsaving with ⟨hending, hleft⟩
  cases result <;> exact ⟨⟨_, hending, rfl⟩, hleft⟩

/-- Unless writing is asked for in any case, there is something to write exactly
    if a check complains. -/
theorem due_iff_verdict (hskip : config.alwaysWrite = false) (script : Script) :
    let checked : CheckReport :=
      { target := config.target
        idempotent := !(script.patch config.rules).isChanged
        pending := (script.patch config.rules).edits }
    Due config false script ↔ ∃ error, checked.verdict = .error error := by
  simp [Due, hskip, CheckReport.verdict_eq_error_iff]

/-- A report lists the edits of the patch, whether they were written or not. -/
theorem edits_of_run_patch {dryRun : Bool} {report : Report}
    (h : loaded world config.target = .ok script)
    (hreport : ((patch config dryRun : Simulation _).run world).1 = .ok report) :
    report.edits = (script.patch config.rules).edits := by
  by_cases hdue : Due config dryRun script
  · rcases run_patch_of_due h hdue with ⟨⟨result, -, hresult⟩, -⟩
    rw [hresult] at hreport
    cases result with
    | error error => cases hreport
    | ok receipt =>
        cases hreport
        rfl
  · rcases run_patch_of_not_due h hdue with ⟨records, hrun⟩
    rw [hrun] at hreport
    cases hreport
    rfl

/-- Patching attempts a write exactly if something is to be written. -/
theorem attempts_iff {dryRun : Bool} {answer : Except Error Report} {after : World}
    (h : loaded world config.target = .ok script)
    (hrun : (patch config dryRun : Simulation _).run world = (answer, after)) :
    Attempts config world script answer after.disk ↔ Due config dryRun script := by
  by_cases hdue : Due config dryRun script
  · have hattempt := (run_patch_of_due h hdue).1
    rw [hrun] at hattempt
    exact iff_of_true hattempt hdue
  · refine iff_of_false ?_ hdue
    -- The report says that nothing was written, and no attempt is reported so.
    rcases run_patch_of_not_due h hdue with ⟨records, hquiet⟩
    rw [hquiet] at hrun
    cases hrun
    rintro ⟨result, -, hresult⟩
    cases result with
    | error error => cases hresult
    | ok receipt => cases congrArg Report.written (Except.ok.inj hresult)

/-- Checking, trying and patching tell one story, on any lawful host and in any
    state. The first two change no file and ask for none. They fail exactly if
    the script cannot be loaded, and then patching fails with the same error.
    Otherwise a check lists the edits that a trial lists, and any report on
    patching lists the same; it finds nothing to do exactly if the bytes of the
    target are those of the patched script; and the only thing it can complain
    of is the number of lines that differ from the patched script. Unless
    writing is asked for in any case, patching attempts a write exactly if the
    check complains, and if it does not, patching succeeds and changes no file
    and asks for none. -/
theorem commands_agree {m : Type → Type} [Host m] [LawfulHost m] (config : Config)
    (state : LawfulHost.State m) :
    let world := LawfulHost.view state
    let loading := LawfulHost.observe (load config.target : m _) state
    let checking := LawfulHost.observe (check config : m _) state
    let trying := LawfulHost.observe (patch config true : m _) state
    let patching := LawfulHost.observe (patch config false : m _) state
    ((checking.2.disk = world.disk ∧ checking.2.requested = world.requested) ∧
      (trying.2.disk = world.disk ∧ trying.2.requested = world.requested)) ∧
    (∀ error, (checking.1 = .error error ↔ loading.1 = .error error) ∧
      (trying.1 = .error error ↔ loading.1 = .error error) ∧
      (loading.1 = .error error → patching.1 = .error error)) ∧
    ∀ script, loading.1 = .ok script → world.disk.read config.target = .ok script.bytes ∧
      ∃ checked tried, checking.1 = .ok checked ∧ trying.1 = .ok tried ∧
        checked.pending = tried.edits ∧
        (∀ patched, patching.1 = .ok patched → patched.edits = checked.pending) ∧
        (checked.idempotent = true ↔ script.bytes = (script.patched config.rules).bytes) ∧
        (∀ error, checked.verdict = .error error →
          error = .pending config.target (script.differing (script.patched config.rules))) ∧
        (config.alwaysWrite = false →
          (Attempts config world script patching.1 patching.2.disk ↔
            ∃ error, checked.verdict = .error error) ∧
          (checked.verdict = .ok () → (∃ patched, patching.1 = .ok patched ∧
              patched.written = false) ∧
            patching.2.disk = world.disk ∧ patching.2.requested = world.requested)) := by
  intro world loading checking trying patching
  have hpatching : patching = (patch config false : Simulation _).run world :=
    LawfulHost.observe_patch config false state
  have hloading : loading.1 = loaded world config.target := by
    rcases run_load config.target world with ⟨records, hrun⟩
    exact congrArg Prod.fst ((LawfulHost.observe_load config.target state).trans hrun)
  rw [hloading, hpatching]
  cases hloaded : loaded world config.target with
  | error error =>
      rcases run_check_of_error hloaded with ⟨records, hcheck⟩
      rcases run_patch_of_error true hloaded with ⟨records', htry⟩
      rcases run_patch_of_error false hloaded with ⟨records'', hpatch⟩
      rw [show checking = _ from (LawfulHost.observe_check config state).trans hcheck,
        show trying = _ from (LawfulHost.observe_patch config true state).trans htry, hpatch]
      refine ⟨⟨⟨rfl, rfl⟩, rfl, rfl⟩, fun error' => ⟨by simp, by simp, by simp⟩, ?_⟩
      intro script hscript
      cases hscript
  | ok script =>
      rcases run_check_of_ok hloaded with ⟨records, hcheck⟩
      rcases run_patch_of_not_due hloaded (not_due_of_dryRun config script) with ⟨records', htry⟩
      rw [show checking = _ from (LawfulHost.observe_check config state).trans hcheck,
        show trying = _ from (LawfulHost.observe_patch config true state).trans htry]
      refine ⟨⟨⟨rfl, rfl⟩, rfl, rfl⟩, fun error' => ⟨by simp, by simp, by simp⟩, ?_⟩
      rintro _ ⟨⟩
      refine ⟨(loaded_eq_ok_iff.mp hloaded).2, _, _, rfl, rfl, rfl, ?_, ?_, ?_, ?_⟩
      · exact fun patched hpatched => edits_of_run_patch hloaded hpatched
      · simp [Script.isChanged_eq_false_iff]
      · intro error herror
        rw [← Script.length_edits]
        exact (CheckReport.verdict_eq_error_iff.mp herror).2
      · intro hskip
        refine ⟨(attempts_iff hloaded rfl).trans (due_iff_verdict hskip script), fun hquiet => ?_⟩
        -- A check that does not complain has found nothing to write.
        have hdue : ¬ Due config false script := by
          intro hdue
          rcases (due_iff_verdict hskip script).mp hdue with ⟨error, herror⟩
          rw [hquiet] at herror
          cases herror
        rcases run_patch_of_not_due hloaded hdue with ⟨records'', hpatch⟩
        rw [hpatch]
        exact ⟨⟨_, rfl, rfl⟩, rfl, rfl⟩

end Command

end Rerun
