import Rerun.Error
import Rerun.Host

/-!
# Backups

The content of a target is saved before the target is replaced. The backup
stands next to the target, under the target's name with a suffix; it is read
back and compared before anything else happens, so a failure up to that
point leaves the target as it was, and a later one leaves the saved content
on disk. Both files are written to a temporary file first, which takes the
place of the old one in a single step or does not stay behind.

## Main definitions

* `Backup.path`: Where the backup of a target goes.
* `Backup.Receipt`: What was written.
* `Backup.replace`: Replaces a file as a whole.
* `Backup.save`: Writes the backup, then the target.
-/

namespace Rerun

namespace Backup

/-- Where the backup of a target goes: the suffix is added to its whole
    name. -/
def path (target suffix : String) : String :=
  target ++ suffix

/-- What was written. -/
structure Receipt where
  target : String
  backup : String
  /-- The checksum of the saved content, as found in the backup on disk. -/
  checksum : UInt32
  bytesWritten : Nat
deriving DecidableEq, Repr

/-- Whether what is found on disk is what was to be saved. -/
def verify (content found : List UInt8) : Except BackupProblem Unit :=
  let expected := Checksum.ofBytes content
  let actual := Checksum.ofBytes found
  if actual ≠ expected ∨ found.length ≠ content.length then .error (.mismatch expected actual)
  else .ok ()

variable {m : Type → Type} [Host m]

/-- Fills a temporary file and renames it. -/
def settle (spare : Spare) (path : String) (bytes : List UInt8) (mode : Option Nat) :
    ExceptT Fault m Unit := do
  ExceptT.mk (Host.fill spare bytes)
  ExceptT.mk (Host.sync spare)
  if let some mode := mode then
    ExceptT.mk (Host.setMode spare mode)
  ExceptT.mk (Host.rename spare path)

/-- Replaces a file as a whole, by way of a temporary file next to it. -/
def replace (path : String) (bytes : List UInt8) (mode : Option Nat) :
    m (Except Fault Unit) := do
  match ← Host.create path with
  | .error fault => return .error fault
  | .ok spare =>
    match ← (settle spare path bytes mode).run with
    | .ok () => return .ok ()
    | .error fault =>
      Host.discard spare
      return .error fault

/-- Writes the backup of a target and reads it back. -/
def keep (backup : String) (content : List UInt8) (mode : Option Nat) :
    m (Except BackupProblem Unit) := do
  match ← replace backup content mode with
  | .error fault => return .error (.unwritable fault)
  | .ok () =>
    match ← Host.read backup with
    | .error fault => return .error (.unreadable fault)
    | .ok found => return verify content found

/-- Saves the content that a target had, then gives it a new text. Both files
    receive the permission bits that the target had. If these cannot be found
    out, they receive those of any new file, and this is no error. -/
def save (target suffix : String) (content : List UInt8) (text : List Char) :
    m (Except Error Receipt) := do
  let backup := path target suffix
  -- The bits are asked for before anything is replaced.
  let mode := (← Host.mode target).toOption
  match ← keep backup content mode with
  | .error problem => return .error (.backup backup problem)
  | .ok () =>
    Host.log ⟨.info, .writing, s!"Backup saved; path={backup}"⟩
    match ← replace target (Utf8.encode text) mode with
    | .error fault => return .error (.target target backup fault)
    | .ok () =>
      Host.log ⟨.info, .writing, s!"Patched; path={target}"⟩
      return .ok ⟨target, backup, Checksum.ofBytes content, Utf8.size text⟩

end Backup

end Rerun
