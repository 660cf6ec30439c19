import Rerun.Cli.Grid
import Rerun.Cli.Json
import Rerun.Cli.Paint
import Rerun.Command
import Rerun.Text.Terminal

/-!
# Presenting Reports

Reports and errors as the lines a user sees, and reports as JSON.

## Main definitions

* `Present.editTable`, `Present.editDiff`: Changed lines as a table, and as
  pairs of lines before and after.
* `Present.report`, `Present.checkReport`: The lines for a report.
* `Present.reportJson`, `Present.checkJson`: A report as JSON.
* `Present.error`: The lines for an error, with a hint on what to do.
* `Present.logText`: A log record as it is written.
-/

namespace Rerun

namespace Cli

namespace Present

/-- An action as it is shown in a table. -/
def action (colours : Bool) : Action → String
  | .commentOut => paint colours .red "Commented out"
  | .insertGuard => paint colours .green "Guard added"
  | .fixTypo => paint colours .yellow "Typo fixed"
  | .keep => paint colours .dimmed "Unchanged"

/-- Changed lines as a table. -/
def editTable (colours : Bool) (edits : List Edit) : List String :=
  Grid.render ["Line", "Statement", "Table", "Action"]
    (edits.map fun edit =>
      [toString edit.line, edit.kind.text, String.ofList (edit.table.getD []),
        action colours edit.action])

/-- Changed lines as pairs of lines before and after. -/
def editDiff (colours : Bool) (edits : List Edit) : List String :=
  edits.flatMap fun edit =>
    let line := edit.line
    [paint colours .cyan s!"@@ line {line} @@",
      paint colours .red ("-" ++ String.ofList edit.before),
      paint colours .green ("+" ++ String.ofList edit.after)]

/-- The table of changed lines, followed by the pairs if they are asked for. -/
def edits (colours diff : Bool) (edits : List Edit) : List String :=
  editTable colours edits ++ if diff then editDiff colours edits else []

/-- The line that says where the backup is. -/
def backupLine (colours : Bool) (backup : String) : String :=
  "  " ++ paint colours .green "→" ++ " Backup saved to " ++ backup

/-- The lines for a report. -/
def report (colours diff : Bool) (r : Report) : List String :=
  let target := r.target
  let lines := r.linesScanned
  let total := r.statements.total
  let creates := r.statements.createTable
  let drops := r.statements.dropTable
  let scanned := paint colours .dimmed
    (s!"Scanned {lines} line(s), {total} statement(s) " ++
      s!"({creates} CREATE TABLE, {drops} DROP TABLE) in {target}")
  if r.edits.isEmpty then
    [scanned, paint colours .green "Script is already idempotent. No changes necessary."] ++
      if r.written then [backupLine colours r.backup] else []
  else
    let commented := r.dropsCommented
    let inserted := r.guardsInserted
    let fixed := r.typosFixed
    let guarded := r.alreadyGuarded
    let summary :=
      s!"{commented} DROP TABLE line(s) commented out, {inserted} guard(s) added, " ++
        s!"{fixed} typo(s) fixed, {guarded} already guarded"
    [scanned] ++ edits colours diff r.edits ++
      if r.dryRun then
        [paint colours .boldYellow ("Dry run: " ++ summary),
          paint colours .dimmed "Nothing was written."]
      else
        [paint colours .boldGreen (s!"Patched {target}: " ++ summary),
          backupLine colours r.backup]

/-- The lines for the report of a check. -/
def checkReport (colours diff : Bool) (r : CheckReport) : List String :=
  let target := r.target
  let count := r.pending.length
  if r.idempotent then [paint colours .boldGreen s!"{target} is idempotent."]
  else
    paint colours .boldYellow s!"{target} needs {count} line(s) rewritten:" ::
      edits colours diff r.pending

/-- A text as JSON. -/
def text (s : String) : Json :=
  .string s.toList

/-- A changed line as JSON. -/
def editJson (edit : Edit) : Json :=
  .object
    [("line", .number edit.line), ("decision", text edit.action.name),
      ("kind", text edit.kind.name),
      ("table", (edit.table.map Json.string).getD .null),
      ("before", .string edit.before), ("after", .string edit.after)]

/-- A report as JSON. -/
def reportJson (r : Report) : Json :=
  .object
    [("target", text r.target), ("backup", text r.backup), ("written", .boolean r.written),
      ("dry_run", .boolean r.dryRun), ("line_ending", text r.lineEnding.name),
      ("lines_scanned", .number r.linesScanned),
      ("statements", .object
        [("create_table", .number r.statements.createTable),
          ("drop_table", .number r.statements.dropTable),
          ("other", .number r.statements.other)]),
      ("changes", .array (r.edits.map editJson)),
      ("drops_commented", .number r.dropsCommented),
      ("guards_inserted", .number r.guardsInserted),
      ("typos_fixed", .number r.typosFixed),
      ("already_guarded", .number r.alreadyGuarded),
      ("backup_checksum", (r.checksum.map fun c => Json.number c.toNat).getD .null)]

/-- The report of a check as JSON. -/
def checkJson (r : CheckReport) : Json :=
  .object
    [("target", text r.target), ("idempotent", .boolean r.idempotent),
      ("pending", .array (r.pending.map editJson))]

/-- What to do about an error. -/
def hint? : Error → Option String
  | .config _ => some "Hint: Check idemsql.toml or pass the script path as an argument."
  | .unreadable .. => some "Hint: Pass the script path as an argument or set IDEMSQL_TARGET."
  | .notUtf8 .. => some "Hint: Convert the script to UTF-8 before rewriting it."
  | .backup .. => none
  | .target _ saved _ => some s!"Hint: Restore the original with: cp {saved} <target>"
  | .pending .. => some "Hint: Run idemsql without --check to apply the rewrite."

/-- The lines for an error. -/
def error (colours : Bool) (e : Error) : List String :=
  (paint colours .boldRed "ERROR:" ++ " [" ++ e.stage.text ++ "] " ++ e.message) ::
    ((hint? e).map (paint colours .dimmed)).toList

/-- The code of a level's colour. -/
def levelCodes : Level → String
  | .error => "1;31"
  | .warn => "33"
  | .info => "32"
  | .debug => "34"
  | .trace => "36"

/-- The lines after the first one of a log message are indented. -/
def indentLines (message : List Char) : List Char :=
  message.flatMap fun c => if c = '\n' then '\n' :: List.replicate 4 ' ' else [c]

/-- A log record as it is written, with the end of its line. Levels are
    filled up to the same length. Without colours nothing in a record reaches
    the terminal as a command. -/
def logText (colours : Bool) (record : Record) : String :=
  let name := record.level.name.toList
  let level := name ++ List.replicate (5 - name.length) ' '
  let styled (codes : String) (t : List Char) : List Char :=
    if colours then escape codes ++ t ++ reset else t
  let text := styled "90" ['['] ++ styled (levelCodes record.level) level ++ styled "90" [']'] ++
    ' ' :: indentLines record.message.toList ++ ['\n']
  String.ofList (if colours then text else Terminal.strip text)

end Present

end Cli

end Rerun
