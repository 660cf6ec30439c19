import Rerun.Checksum
import Rerun.Disk

/-!
# Errors

Why a command failed. An error is a cause, and it belongs to the stage of
the work at which it arose; `Error.message` puts it into words.

## Main definitions

* `Stage`: The stages of a run.
* `Error`: The causes of failure.
* `Error.stage`: The stage that failed.
* `Error.message`: The cause in words.
-/

namespace Rerun

/-- The stages of a run. -/
inductive Stage where
  | config
  | load
  | scan
  | backup
  | write
  | check
deriving DecidableEq, Repr

namespace Stage

/-- The stage, as a reader is told about it. -/
def text : Stage → String
  | config => "config"
  | load => "load"
  | scan => "scan"
  | backup => "backup"
  | write => "write"
  | check => "check"

end Stage

/-- What is wrong with a configuration. -/
inductive ConfigProblem where
  /-- The file is not TOML, or not of the right shape. -/
  | malformed (file : String)
  /-- A file that was asked for cannot be read. -/
  | missing (file : String)
  | emptyTarget
  | emptySuffix
  | separatorInSuffix (suffix : String)
deriving DecidableEq, Repr

namespace ConfigProblem

/-- The problem in words. -/
def message : ConfigProblem → String
  | malformed file => s!"Failed to parse config file '{file}'"
  | missing file => s!"Config file '{file}' not found"
  | emptyTarget => "Target path must not be empty"
  | emptySuffix => "Backup suffix must not be empty"
  | separatorInSuffix suffix => s!"Backup suffix '{suffix}' must not contain a path separator"

end ConfigProblem

/-- Why a backup could not be made. -/
inductive BackupProblem where
  | unwritable (fault : Fault)
  | unreadable (fault : Fault)
  | mismatch (expected found : UInt32)
deriving DecidableEq, Repr

namespace BackupProblem

/-- The problem in words. -/
def message : BackupProblem → String
  | unwritable fault => fault.text
  | unreadable fault => "could not read back backup: " ++ fault.text
  | mismatch expected found =>
    "verification failed: expected crc32 " ++ Checksum.hex expected ++ ", found " ++
      Checksum.hex found

end BackupProblem

/-- Why a command failed. -/
inductive Error where
  /-- The configuration is invalid. -/
  | config (problem : ConfigProblem)
  /-- The script does not exist or cannot be read. -/
  | unreadable (path : String) (fault : Fault)
  /-- The script is not UTF-8. -/
  | notUtf8 (path : String) (offset : Nat)
  /-- The backup could not be made. The target was not touched. -/
  | backup (path : String) (problem : BackupProblem)
  /-- The target could not be replaced after the backup was made. -/
  | target (path saved : String) (fault : Fault)
  /-- A check found lines that would change. -/
  | pending (path : String) (count : Nat)
deriving DecidableEq, Repr

namespace Error

/-- The stage that failed. -/
def stage : Error → Stage
  | config _ => .config
  | unreadable .. => .load
  | notUtf8 .. => .scan
  | backup .. => .backup
  | target .. => .write
  | pending .. => .check

/-- The cause in words. -/
def message : Error → String
  | config problem => "Configuration error: " ++ problem.message
  | unreadable path fault => s!"Could not read {path}: " ++ fault.text
  | notUtf8 path offset => s!"{path} is not valid UTF-8 (first invalid byte at offset {offset})"
  | backup path problem =>
    s!"Failed to write backup {path}: " ++ problem.message ++
      ". The target file was left unmodified."
  | target path saved fault =>
    s!"Failed to write {path}: " ++ fault.text ++
      s!". The original content is preserved in {saved}."
  | pending path count => s!"{path} is not idempotent: {count} line(s) would be rewritten"

end Error

end Rerun
