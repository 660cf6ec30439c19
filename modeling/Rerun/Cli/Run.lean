import Rerun.Cli.Args
import Rerun.Cli.LogFilter
import Rerun.Cli.Present

/-!
# Running the Program

From the arguments of the program to what it prints and the code it exits
with. The environment decides which log records are shown and whether
colours are used; the two kinds of output follow slightly different
conventions on colours.

## Main definitions

* `Setup`: How output is to look.
* `Setup.load`: The setup that the environment asks for.
* `exitCode`: The exit code for an error.
* `Finish`: What a run of the program leaves behind.
* `work`: The work itself.
* `run`: A whole run on a simulated machine.
-/

namespace Rerun

namespace Cli

/-- How output is to look. -/
structure Setup where
  /-- Whether reports and errors are coloured. -/
  colours : Bool
  /-- Whether log lines are coloured. -/
  logColours : Bool
  filter : LogFilter
  /-- What is to be said about the log filter. -/
  complaints : List String
deriving DecidableEq, Repr

/-- What a run of the program leaves behind: an exit code, the lines of its
    output and the text of its error stream, whose last line need not be
    complete. -/
structure Finish where
  code : Nat
  output : List String := []
  errors : String := ""
  /-- Whether the arguments made no sense. -/
  misuse : Bool := false
deriving DecidableEq, Repr

/-- Lines as a text. -/
def unlines (lines : List String) : String :=
  String.join (lines.map fun line => line ++ "\n")

/-- The name and version of the program. -/
def versionLine : String := "idemsql 0.1.0"

/-- A short reminder of how the program is called. -/
def usageLine : String := "Usage: idemsql [OPTIONS] [FILE]"

/-- The exit code for an error. -/
def exitCode : Error → Nat
  | .config _ => 2
  | .unreadable .. => 3
  | .notUtf8 .. => 3
  | .backup .. => 4
  | .target .. => 5
  | .pending .. => 6

/-- The log filter in force unless the environment has one. -/
def defaultFilter (options : Options) : List Char :=
  if options.has .json || options.has .quiet then "error".toList
  else if options.has .verbose then "debug".toList
  else "info".toList

/-- Whether reports and errors are coloured: they are if that is forced, by
    anything but a zero. -/
def wantsColours (forced : Option (List Char)) : Bool :=
  forced.any fun value => value != ['0']

/-- Whether log lines are coloured. An explicit choice counts; without one
    they are if that is forced and colours are not forbidden. -/
def wantsLogColours (style : Option (List Char)) (forbidden forced : Option (List UInt8)) : Bool :=
  let nonempty (value : Option (List UInt8)) : Bool := value.any fun bytes => !bytes.isEmpty
  match style.map String.ofList with
  | some "always" => true
  | some "never" => false
  | _ => nonempty forced && !nonempty forbidden

variable {m : Type → Type} [Host m]

/-- The setup that the environment asks for. -/
def Setup.load (options : Options) : m Setup := do
  let log ← Config.variableText? "RUST_LOG"
  let style ← Config.variableText? "RUST_LOG_STYLE"
  let forbidden ← Host.environment? "NO_COLOR"
  let forced ← Host.environment? "CLICOLOR_FORCE"
  let (filter, complaints) := LogFilter.parse (log.getD (defaultFilter options))
  return {
    colours := wantsColours (forced.bind Utf8.decode?)
    logColours := wantsLogColours style forbidden forced
    filter
    complaints }

/-- The end of a run that failed. -/
def failed (setup : Setup) (output : List String) (error : Error) : Finish :=
  { code := exitCode error, output, errors := unlines (Present.error setup.colours error) }

/-- The lines that a report is shown by: as JSON, not at all, or as text. -/
def shown (options : Options) (json : Json) (lines : List String) : List String :=
  if options.has .json then [json.render]
  else if options.has .quiet then []
  else lines

/-- Checks the target. -/
def workCheck (setup : Setup) (options : Options) (config : Config) : m Finish := do
  match ← Command.check config with
  | .error error => return failed setup [] error
  | .ok report =>
    let output := shown options (Present.checkJson report)
      (Present.checkReport setup.colours (options.has .diff) report)
    match report.verdict with
    | .error error => return failed setup output error
    | .ok () => return { code := 0, output }

/-- Patches the target, or shows what that would do. -/
def workPatch (setup : Setup) (options : Options) (config : Config) : m Finish := do
  match ← Command.patch config (options.has .dryRun) with
  | .error error => return failed setup [] error
  | .ok report =>
    return {
      code := 0
      output := shown options (Present.reportJson report)
        (Present.report setup.colours (options.has .diff) report) }

/-- Does what the options ask for. -/
def work (setup : Setup) (options : Options) : m Finish := do
  match ← Config.load (options.value? .config) options.layer with
  | .error error => return failed setup [] error
  | .ok config =>
    if options.has .check then workCheck setup options config
    else workPatch setup options config

/-- The answer to an invocation that is not to work. -/
def answer : Invocation → Finish
  | .version => { code := 0, output := [versionLine] }
  | .help => { code := 0, output := [usageLine] }
  | _ => { code := 2, errors := unlines [usageLine], misuse := true }

/-- The log records that a setup shows, as they are written. -/
def logText (setup : Setup) (records : List Record) : String :=
  String.join ((records.filter setup.filter.allows).map (Present.logText setup.logColours))

/-- A whole run on a simulated machine. Log records precede the lines of an
    error, since nothing is logged after one. -/
def run (args : List String) (world : World) : Finish × World :=
  match Invocation.ofArgs args with
  | .run options =>
    let (setup, world) := (Setup.load options : Simulation Setup).run { world with records := [] }
    let (finish, world) := (work setup options : Simulation Finish).run world
    ({ finish with
        errors := unlines setup.complaints ++ logText setup world.records ++ finish.errors }, world)
  | invocation => (answer invocation, world)

end Cli

end Rerun
