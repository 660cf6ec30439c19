import Rerun.Backup
import Rerun.Config
import Rerun.Span

/-!
# Commands

What a run can be asked to do with its target: patch it, show what patching
would do, or check that there is nothing to patch. All three read the script
and compute the patch in memory first. Only the first one writes, and only
if the patch changes something or writing was asked for in any case.

## Main definitions

* `Command.load`: The script that a path leads to.
* `Report`: What patching did, or would do.
* `Command.patch`: Patches the target, or only reports.
* `CheckReport`: Whether there is anything to patch.
* `Command.check`: Checks the target.
* `CheckReport.verdict`: The outcome of a check as a success or an error.
-/

namespace Rerun

/-- What patching a target did, or would do. -/
structure Report where
  target : String
  backup : String
  /-- Whether the backup and the target were written. -/
  written : Bool
  /-- Whether nothing was to be written. -/
  dryRun : Bool
  lineEnding : LineEnding
  linesScanned : Nat
  statements : Summary
  edits : List Edit
  dropsCommented : Nat
  guardsInserted : Nat
  typosFixed : Nat
  alreadyGuarded : Nat
  /-- The checksum of the saved content, if a backup was written. -/
  checksum : Option UInt32
deriving DecidableEq, Repr

namespace Report

/-- The report on a patch that was not written. -/
def ofOutcome (config : Config) (dryRun : Bool) (script : Script) (outcome : Outcome) : Report :=
  { target := config.target
    backup := Backup.path config.target config.suffix
    written := false
    dryRun
    lineEnding := script.lineEnding
    linesScanned := outcome.lines
    statements := Summary.ofSpans script.spans
    edits := outcome.edits
    dropsCommented := outcome.count .commentOut
    guardsInserted := outcome.count .insertGuard
    typosFixed := outcome.count .fixTypo
    alreadyGuarded := outcome.guarded
    checksum := none }

end Report

/-- Whether there is anything to patch. -/
structure CheckReport where
  target : String
  idempotent : Bool
  /-- The edits that patching would make. -/
  pending : List Edit
deriving DecidableEq, Repr

namespace CheckReport

/-- The outcome of a check as a success or an error. -/
def verdict (report : CheckReport) : Except Error Unit :=
  if report.idempotent then .ok () else .error (.pending report.target report.pending.length)

end CheckReport

namespace Command

variable {m : Type → Type} [Host m]

/-- The script that a path leads to. -/
def load (path : String) : m (Except Error Script) := do
  match ← Host.read path with
  | .error fault => return .error (.unreadable path fault)
  | .ok bytes =>
    let size := bytes.length
    Host.log ⟨.debug, .loading, s!"Loaded script; path={path}, bytes={size}"⟩
    match Script.ofBytes bytes with
    | .error offset => return .error (.notUtf8 path offset)
    | .ok script => return .ok script

/-- What to say about a script that ends inside a comment or a literal. -/
def warning? (path : String) : LexState → Option String
  | .code => none
  | .blockComment =>
    some ("Script ends inside an unterminated block comment; " ++
      s!"lines after it were left unchanged; path={path}")
  | .quoted quote =>
    some (s!"Script ends inside an unterminated {quote} literal; " ++
      s!"lines after it were left unchanged; path={path}")

/-- Computes the patch of a script, and says what is worth knowing of it. -/
def survey (config : Config) (script : Script) : m Outcome := do
  let outcome := script.patch config.rules
  let lines := outcome.lines
  let edits := outcome.edits.length
  let guarded := outcome.guarded
  Host.log ⟨.debug, .patching,
    s!"Rewrite pass complete; lines={lines}, changes={edits}, already_guarded={guarded}"⟩
  match warning? config.target outcome.last with
  | some text => Host.log ⟨.warn, .reporting, text⟩
  | none => pure ()
  return outcome

/-- Patches the target of a configuration. With `dryRun`, nothing is
    written. -/
def patch (config : Config) (dryRun : Bool) : m (Except Error Report) := do
  match ← load config.target with
  | .error error => return .error error
  | .ok script =>
    let outcome ← survey config script
    let report := Report.ofOutcome config dryRun script outcome
    let target := config.target
    let lines := outcome.lines
    let statements := report.statements.total
    let edits := outcome.edits.length
    Host.log ⟨.debug, .reporting,
      s!"Scanned script; path={target}, lines={lines}, statements={statements}, changes={edits}"⟩
    if dryRun then return .ok report
    else if !outcome.isChanged && !config.alwaysWrite then
      Host.log ⟨.info, .reporting, s!"Already idempotent, nothing written; path={target}"⟩
      return .ok report
    else
      match ← Backup.save target config.suffix script.bytes outcome.text with
      | .error error => return .error error
      | .ok receipt =>
        return .ok { report with
          written := true, backup := receipt.backup, checksum := some receipt.checksum }

/-- Checks the target of a configuration. Nothing is written. -/
def check (config : Config) : m (Except Error CheckReport) := do
  match ← load config.target with
  | .error error => return .error error
  | .ok script =>
    let outcome ← survey config script
    return .ok
      { target := config.target, idempotent := !outcome.isChanged, pending := outcome.edits }

end Command

end Rerun
