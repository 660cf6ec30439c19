import Rerun.Cli.Run

/-!
# The Program

The commands on the real machine. Files are read and replaced through the
file system, log records go to the standard error stream as they are written,
and the program exits with the code that the run ends in.

There is no way to ask for permission bits here, so that request fails and a
replaced file receives those of any new file, and there is no way to force a
file to the disk, so that step does nothing.

## Main definitions

* `Machine`: Commands run on the real machine.
* `main`: The entry point.
-/

namespace Rerun

/-- Commands run on the real machine, with a setup for their log lines. -/
abbrev Machine := ReaderT Cli.Setup IO

namespace Machine

/-- A failure of the file system as a fault. -/
def faultOf : IO.Error → Fault
  | .noFileOrDirectory .. => .notFound
  | .resourceBusy .. => .busy
  | .inappropriateType _ 20 _ => .notDirectory
  | .inappropriateType _ 21 _ => .isDirectory
  | .invalidArgument _ 22 _ => .invalid
  | .invalidArgument _ 36 _ => .nameTooLong
  | error => .other (toString error)

/-- Runs an action, with a failure as a value. -/
def attempt {α : Type} (action : IO α) : IO (Except Fault α) := do
  try return .ok (← action)
  catch error => return .error (faultOf error)

/-- The bytes of a file. -/
def read (path : String) : IO (Except Fault (List UInt8)) := do
  if Path.hasNul path then return .error .nulByte
  else attempt do return (← IO.FS.readBinFile path).toList

/-- The path of a temporary file. -/
def pathOf (spare : Spare) : String :=
  let folder := String.ofList (Path.parentText spare.beside)
  let number := spare.number
  (if folder.isEmpty then "." else folder) ++ s!"/.rerun-{number}"

/-- Makes a temporary file in the directory that holds a path. -/
def create (path : String) : IO (Except Fault Spare) := do
  if (Path.parent path).any (·.contains '\x00') then return .error .nulByte
  else
    let number ← IO.rand 0 999999999
    let spare : Spare := ⟨path, number⟩
    attempt do
      let _ ← IO.FS.Handle.mk (pathOf spare) .writeNew
      return spare

/-- Renames a temporary file. -/
def rename (spare : Spare) (path : String) : IO (Except Fault Unit) := do
  if Path.hasNul path then return .error .invalid
  else attempt (IO.FS.rename (pathOf spare) path)

/-- The right to read, write and execute that three bits stand for. -/
def rightOf (bits : Nat) : IO.AccessRight :=
  { read := bits.testBit 2, write := bits.testBit 1, execution := bits.testBit 0 }

/-- Gives a temporary file its permission bits. -/
def setMode (spare : Spare) (mode : Nat) : IO (Except Fault Unit) :=
  attempt <| IO.setAccessRights (pathOf spare)
    { user := rightOf (mode / 64), group := rightOf (mode / 8), other := rightOf mode }

instance : Host Machine where
  read path := fun _ => read path
  mode _ := fun _ => return .error (.other "unsupported operation")
  create path := fun _ => create path
  fill spare bytes := fun _ => attempt (IO.FS.writeBinFile (pathOf spare) ⟨bytes.toArray⟩)
  sync _ := fun _ => return .ok ()
  setMode spare mode := fun _ => setMode spare mode
  rename spare path := fun _ => rename spare path
  discard spare := fun _ => do
    let _ ← attempt (IO.FS.removeFile (pathOf spare))
  environment? name := fun _ => return (← IO.getEnv name).map fun value => Utf8.encode value.toList
  log record := fun setup => IO.eprint (Cli.logText setup [record])

/-- A setup that shows nothing, for what happens before the real one is
    known. -/
def silent : Cli.Setup :=
  { colours := false, logColours := false, filter := ⟨[], none⟩, complaints := [] }

/-- A whole run on the real machine. -/
def run (args : List String) : IO Cli.Finish := do
  match Cli.Invocation.ofArgs args with
  | .run options =>
    let setup ← ReaderT.run (Cli.Setup.load options : Machine Cli.Setup) silent
    IO.eprint (Cli.unlines setup.complaints)
    ReaderT.run (Cli.work setup options : Machine Cli.Finish) setup
  | invocation => return Cli.answer invocation

end Machine

end Rerun

/-- The entry point. -/
def main (args : List String) : IO UInt32 := do
  let finish ← Rerun.Machine.run args
  IO.print (Rerun.Cli.unlines finish.output)
  IO.eprint finish.errors
  return finish.code.toUInt32
