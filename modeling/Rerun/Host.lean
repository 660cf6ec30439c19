import Rerun.Disk

/-!
# The Machine a Run Happens On

A command reads files, replaces files, looks at the environment and writes
log records, and does nothing else to the world. `Host` lists these
requests, and the commands are written for any monad that answers them. The
program answers them from the real file system; `Simulation` answers them
from a `World`, which is a value, so what a command does to the world can be
stated and proved.

What is taken for granted of a host is stated as laws elsewhere
(`LawfulHost`), and `Simulation` is a host that keeps them.

A file is replaced in steps. A temporary file is made next to it, filled,
forced to the disk, given its permission bits and renamed, and each of these
steps can fail. Until the last one the tree is as it was.

A world can be given failures that no state of the tree explains, such as a
full disk or a bad sector. Each reading of a file draws one entry from the
list of misreads, each question for permission bits one from the list of
lapses, and each step of replacing a file one from the list of mishaps; when a
list is used up nothing more goes wrong.

## Main definitions

* `Level`, `Record`: A log record and its importance.
* `Spare`: A temporary file.
* `Host`: What a command may ask of the machine.
* `Draft`: What a temporary file holds.
* `World`: A tree, an environment, failures to come, temporary files and a log.
* `World.misread?`, `World.lapse?`: What will go wrong with a certain reading
  or question.
* `Simulation`: Commands run on a world.
-/

namespace Rerun

/-- The importance of a log record, most important first. -/
inductive Level where
  | error
  | warn
  | info
  | debug
  | trace
deriving DecidableEq, Repr

namespace Level

/-- The level as it is printed. -/
def name : Level → String
  | error => "ERROR"
  | warn => "WARN"
  | info => "INFO"
  | debug => "DEBUG"
  | trace => "TRACE"

/-- The place of a level in the order of importance. -/
def rank : Level → Nat
  | error => 1
  | warn => 2
  | info => 3
  | debug => 4
  | trace => 5

end Level

/-- The part of the program that writes a log record. Log filters select
    records by the names of these parts. -/
inductive Channel where
  | loading
  | patching
  | configuration
  | writing
  | reporting
deriving DecidableEq, Repr

namespace Channel

/-- The name of a channel in a log filter. -/
def name : Channel → String
  | loading => "idemsql_core::loader"
  | patching => "idemsql_core::rewrite"
  | configuration => "idemsql_core::config"
  | writing => "idemsql_core::writer"
  | reporting => "idemsql_core::commands::rewrite"

end Channel

/-- A log record. -/
structure Record where
  level : Level
  channel : Channel
  message : String
deriving DecidableEq, Repr

/-- A temporary file, as it is known to the command that has asked for it. -/
structure Spare where
  /-- The path that the file was made next to. -/
  beside : String
  /-- What tells it from others. -/
  number : Nat
deriving DecidableEq, Repr

/-- What a command may ask of the machine it runs on. A request that fails
    leaves every file as it was. -/
class Host (m : Type → Type) extends Monad m where
  /-- The bytes of a file. -/
  read : String → m (Except Fault (List UInt8))
  /-- The permission bits of what a path leads to. -/
  mode : String → m (Except Fault Nat)
  /-- Makes an empty temporary file in the directory that holds a path. -/
  create : String → m (Except Fault Spare)
  /-- Writes bytes to a temporary file. -/
  fill : Spare → List UInt8 → m (Except Fault Unit)
  /-- Forces what was written to a temporary file to the disk. -/
  sync : Spare → m (Except Fault Unit)
  /-- Gives a temporary file its permission bits. -/
  setMode : Spare → Nat → m (Except Fault Unit)
  /-- Renames a temporary file to a path, in the place of the file there. -/
  rename : Spare → String → m (Except Fault Unit)
  /-- Removes a temporary file. -/
  discard : Spare → m Unit
  /-- The bytes of an environment variable. -/
  environment? : String → m (Option (List UInt8))
  /-- Writes a log record. -/
  log : Record → m Unit

/-- What a temporary file holds. -/
structure Draft where
  spare : Spare
  mode : Nat
  bytes : List UInt8
deriving DecidableEq, Repr

namespace Draft

/-- Changes the draft that belongs to a temporary file. -/
def alter (spare : Spare) (change : Draft → Draft) : List Draft → List Draft
  | [] => []
  | draft :: rest =>
    if draft.spare = spare then change draft :: rest else draft :: alter spare change rest

/-- Takes away the draft that belongs to a temporary file. -/
def remove (spare : Spare) : List Draft → List Draft
  | [] => []
  | draft :: rest => if draft.spare = spare then rest else draft :: remove spare rest

end Draft

/-- All that a command can see and change. -/
structure World where
  disk : Disk
  environment : List (String × List UInt8)
  /-- What will go wrong with the next readings of files. -/
  misreads : List (Option Fault) := []
  /-- What will go wrong with the next questions for permission bits. -/
  lapses : List (Option Fault) := []
  /-- What will go wrong with the next steps of replacing files. -/
  mishaps : List (Option Fault) := []
  /-- The temporary files that there are, the youngest first. -/
  drafts : List Draft := []
  /-- The number of times that a temporary file was asked for so far. -/
  requested : Nat := 0
  /-- The log records written so far, oldest first. -/
  records : List Record := []
deriving DecidableEq, Repr

namespace World

/-- The next one of the failures to come, and those after it. -/
def draw : List (Option Fault) → Option Fault × List (Option Fault)
  | [] => (none, [])
  | next :: later => (next, later)

/-- What will go wrong with the reading that comes after some others. -/
def misread? (world : World) (others : Nat) : Option Fault :=
  world.misreads[others]?.join

/-- What will go wrong with the question that comes after some others. -/
def lapse? (world : World) (others : Nat) : Option Fault :=
  world.lapses[others]?.join

/-- Reads a file. -/
def read (world : World) (path : String) : Except Fault (List UInt8) × World :=
  let (misread, misreads) := draw world.misreads
  (match misread with
    | some fault => .error fault
    | none => world.disk.read path,
    { world with misreads })

/-- Asks for permission bits. -/
def mode (world : World) (path : String) : Except Fault Nat × World :=
  let (lapse, lapses) := draw world.lapses
  (match lapse with
    | some fault => .error fault
    | none => world.disk.mode path,
    { world with lapses })

/-- Makes a step of replacing a file, unless a mishap prevents it. -/
def step {α : Type} (act : World → Except Fault α × World) (world : World) :
    Except Fault α × World :=
  let (mishap, mishaps) := draw world.mishaps
  match mishap with
  | some fault => (.error fault, { world with mishaps })
  | none => act { world with mishaps }

/-- Makes a temporary file. -/
def create (world : World) (path : String) : Except Fault Spare × World :=
  let spare : Spare := ⟨path, world.requested⟩
  step (fun world =>
    match world.disk.stage path with
    | .error fault => (.error fault, world)
    | .ok () =>
      (.ok spare, { world with drafts := ⟨spare, Disk.defaultMode, []⟩ :: world.drafts }))
    { world with requested := world.requested + 1 }

/-- Changes a temporary file. -/
def alter (world : World) (spare : Spare) (change : Draft → Draft) : Except Fault Unit × World :=
  step (fun world => (.ok (), { world with drafts := Draft.alter spare change world.drafts })) world

/-- Renames a temporary file. -/
def rename (world : World) (spare : Spare) (path : String) : Except Fault Unit × World :=
  step (fun world =>
    match world.drafts.find? fun draft => draft.spare == spare with
    | none => (.error .notFound, world)
    | some draft =>
      match world.disk.destination path with
      | .error fault => (.error fault, world)
      | .ok place =>
        (.ok (), { world with
          disk := world.disk.put place (.file draft.mode draft.bytes)
          drafts := Draft.remove spare world.drafts }))
    world

/-- Removes a temporary file. -/
def discard (world : World) (spare : Spare) : World :=
  { world with drafts := Draft.remove spare world.drafts }

/-- Writes a log record. -/
def log (world : World) (record : Record) : World :=
  { world with records := world.records ++ [record] }

end World

/-- Commands run on a world. -/
abbrev Simulation := StateM World

instance : Host Simulation where
  read path := fun world => world.read path
  mode path := fun world => world.mode path
  create path := fun world => world.create path
  fill spare bytes := fun world =>
    world.alter spare fun draft => { draft with bytes := draft.bytes ++ bytes }
  sync spare := fun world => world.alter spare id
  setMode spare mode := fun world => world.alter spare fun draft => { draft with mode }
  rename spare path := fun world => world.rename spare path
  discard spare := fun world => ((), world.discard spare)
  environment? name := fun world => (world.environment.lookup name, world)
  log record := fun world => ((), world.log record)

end Rerun
