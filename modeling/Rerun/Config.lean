import Rerun.Error
import Rerun.Host
import Rerun.Patch
import Rerun.Toml.Document

/-!
# Configuration

A run is configured by four layers: what the caller asks for, the
environment, a configuration file, and the defaults. A layer may leave any
setting open, and each setting on its own is taken from the first layer that
has it. Only the result of merging all layers is checked, so a bad value in a
layer that a higher one overrides does no harm.

A configuration file has up to three sections, and a section that is there may
leave its settings open. How the text of a file is taken apart into sections is
a parameter of loading (`Config.loadWith`), so nothing that is proved about the
layers depends on it. The program reads TOML (`Sections.ofToml?`).

## Main definitions

* `Config`: The settings of a run.
* `Layer`: Some of the settings.
* `Layer.onto`: A layer put on top of settings.
* `Sections`: What a configuration file holds.
* `Sections.layer`: The layer that the sections describe.
* `Sections.ofToml?`: The sections that a text holds.
* `Config.ofEnvironment`: The layer that the environment describes.
* `Config.check`: What merged settings must satisfy.
* `Config.loadWith`, `Config.load`: The settings from all layers.
-/

namespace Rerun

/-- The settings of a run. -/
structure Config where
  /-- The script to make safe. -/
  target : String := "src/main/resources/db/migration/dbiemr/V1__DB_IEMR.sql"
  /-- What is added to the target's name for the backup. -/
  suffix : String := ".bak"
  /-- Whether to write even if nothing changed. -/
  alwaysWrite : Bool := false
  rules : Rules := {}
deriving DecidableEq, Repr

/-- Some of the settings of a run. -/
structure Layer where
  target : Option String := none
  suffix : Option String := none
  alwaysWrite : Option Bool := none
  commentDrops : Option Bool := none
  insertGuards : Option Bool := none
  fixTypos : Option Bool := none
deriving DecidableEq, Repr

namespace Layer

/-- A layer put on top of settings: what it leaves open stays as it was. -/
def onto (layer : Layer) (config : Config) : Config :=
  { target := layer.target.getD config.target
    suffix := layer.suffix.getD config.suffix
    alwaysWrite := layer.alwaysWrite.getD config.alwaysWrite
    rules :=
      { commentDrops := layer.commentDrops.getD config.rules.commentDrops
        insertGuards := layer.insertGuards.getD config.rules.insertGuards
        fixTypos := layer.fixTypos.getD config.rules.fixTypos } }

end Layer

/-- The section of a configuration file that says where the script is. -/
structure Sections.Target where
  path : Option String := none
deriving DecidableEq, Repr

/-- The section of a configuration file on backups. -/
structure Sections.Backup where
  suffix : Option String := none
  alwaysWrite : Option Bool := none
deriving DecidableEq, Repr

/-- The section of a configuration file on the transforms. -/
structure Sections.Rules where
  commentDrops : Option Bool := none
  insertGuards : Option Bool := none
  fixTypos : Option Bool := none
deriving DecidableEq, Repr

/-- What a configuration file holds. -/
structure Sections where
  target : Option Sections.Target := none
  backup : Option Sections.Backup := none
  rules : Option Sections.Rules := none
deriving DecidableEq, Repr

namespace Sections

/-- The layer that the sections of a configuration file describe. A section
    that is missing leaves all of its settings open. -/
def layer (sections : Sections) : Layer :=
  { target := sections.target.bind (·.path)
    suffix := sections.backup.bind (·.suffix)
    alwaysWrite := sections.backup.bind (·.alwaysWrite)
    commentDrops := sections.rules.bind (·.commentDrops)
    insertGuards := sections.rules.bind (·.insertGuards)
    fixTypos := sections.rules.bind (·.fixTypos) }

/-- A setting that is a text. -/
def text? : Toml → Option String
  | .string text => some (String.ofList text)
  | _ => none

/-- A setting that is a truth value. -/
def flag? : Toml → Option Bool
  | .boolean value => some value
  | _ => none

/-- The values of a section, in the order of the names of its settings. A
    section is a table that has no other settings, or an array that lists a
    value for each of them; what the array holds beyond that is ignored. -/
def values? (names : List String) : Toml → Option (List (Option Toml))
  | .table _ entries =>
    if entries.all fun entry => names.any fun name => name.toList == entry.1 then
      some (names.map fun name => entries.lookup name.toList)
    else none
  | .array items =>
    if names.length ≤ items.length then some ((items.take names.length).map some) else none
  | _ => none

/-- Reads a setting that may be missing. A value of the wrong kind is an
    error. -/
def setting? {α : Type} (read : Toml → Option α) : Option Toml → Option (Option α)
  | none => some none
  | some value => (read value).map some

/-- Reads the section that says where the script is. -/
def readTarget? (value : Toml) : Option Target := do
  match ← values? ["path"] value with
  | [path] => some { path := ← setting? text? path }
  | _ => none

/-- Reads the section on backups. -/
def readBackup? (value : Toml) : Option Backup := do
  match ← values? ["suffix", "always_write"] value with
  | [suffix, always] =>
    some { suffix := ← setting? text? suffix, alwaysWrite := ← setting? flag? always }
  | _ => none

/-- Reads the section on the transforms. -/
def readRules? (value : Toml) : Option Rules := do
  match ← values? ["comment_out_drops", "insert_guards", "normalize_typos"] value with
  | [drops, guards, typos] =>
    some
      { commentDrops := ← setting? flag? drops
        insertGuards := ← setting? flag? guards
        fixTypos := ← setting? flag? typos }
  | _ => none

/-- The sections of a document. A section or setting that is not known is an
    error. -/
def ofEntries? : Toml.Entries → Option Sections
  | [] => some {}
  | (name, value) :: rest => do
    let sections ← ofEntries? rest
    if name = "target".toList then
      some { sections with target := ← readTarget? value }
    else if name = "backup".toList then
      some { sections with backup := ← readBackup? value }
    else if name = "rewrite".toList then
      some { sections with rules := ← readRules? value }
    else none

/-- The sections that a text holds, if it is well formed. -/
def ofToml? (text : List Char) : Option Sections :=
  (Toml.parse? text).bind ofEntries?

end Sections

namespace Config

/-- The configuration file that is looked for when none is named. -/
def defaultFile : String := "idemsql.toml"

/-- A truth value as people write it. -/
def parseFlag? (text : List Char) : Option Bool :=
  let word := String.ofList (Text.lower (Text.trimBoth text))
  if ["1", "true", "yes", "on"].contains word then some true
  else if ["0", "false", "no", "off"].contains word then some false
  else none

/-- What merged settings must satisfy. -/
def check (config : Config) : Except ConfigProblem Unit :=
  if config.target.isEmpty then .error .emptyTarget
  else if config.suffix.isEmpty then .error .emptySuffix
  else if config.suffix.toList.any fun c => c == '/' || c == '\\' then
    .error (.separatorInSuffix config.suffix)
  else .ok ()

variable {m : Type → Type} [Host m]

/-- The text of an environment variable. One that is not UTF-8 counts as not
    set. -/
def variableText? (name : String) : m (Option (List Char)) := do
  return (← Host.environment? name).bind Utf8.decode?

/-- The layer that a configuration file describes, if `parse` takes its text
    apart. The default file may be absent, and a file that is not UTF-8 counts
    as absent. -/
def ofFile (parse : List Char → Option Sections) (file : Option String) :
    m (Except ConfigProblem Layer) := do
  let path := file.getD defaultFile
  match (← Host.read path).toOption.bind Utf8.decode? with
  | some text =>
    match parse text with
    | none => return .error (.malformed path)
    | some sections =>
      Host.log ⟨.debug, .configuration, s!"Loaded config file; path={path}"⟩
      return .ok sections.layer
  | none => return if file.isSome then .error (.missing path) else .ok {}

/-- The layer that the environment describes. A truth value that is not
    understood is reported and otherwise ignored. -/
def ofEnvironment : m Layer := do
  let target ← variableText? "IDEMSQL_TARGET"
  let suffix ← variableText? "IDEMSQL_BACKUP_SUFFIX"
  let always ← variableText? "IDEMSQL_ALWAYS_WRITE"
  let alwaysWrite := always.bind parseFlag?
  match always, alwaysWrite with
  | some text, none =>
    let value := String.ofList text
    Host.log ⟨.warn, .configuration,
      s!"Ignoring invalid IDEMSQL_ALWAYS_WRITE '{value}'. Valid values: true, false"⟩
  | _, _ => pure ()
  return { target := target.map String.ofList, suffix := suffix.map String.ofList, alwaysWrite }

/-- The settings from all layers, where `parse` takes the text of a
    configuration file apart. -/
def loadWith (parse : List Char → Option Sections) (file : Option String) (overrides : Layer) :
    m (Except Error Config) := do
  match ← ofFile parse file with
  | .error problem => return .error (.config problem)
  | .ok fileLayer =>
    let environment ← ofEnvironment
    let config := overrides.onto (environment.onto (fileLayer.onto {}))
    match config.check with
    | .error problem => return .error (.config problem)
    | .ok () => return .ok config

/-- The settings from all layers, where the configuration file is a TOML
    document. -/
def load (file : Option String) (overrides : Layer) : m (Except Error Config) :=
  loadWith Sections.ofToml? file overrides

end Config

end Rerun
