import Rerun.Command
import Rerun.Proofs.Replacing

/-!
# Lawful Hosts

What the commands rely on when they run on a machine other than the simulation.
`Host` lists the requests that a machine answers and says nothing about the
answers. A machine is lawful if its state can be viewed as a world, and each
request answers and leaves what the world says. These are the assumptions about
the file system and about temporary files, one law for each request:

* reading a file gives what the tree holds, or fails, and leaves the tree as it
  is; the same goes for asking for permission bits;
* making, filling, forcing out and setting the bits of a temporary file
  succeeds, or fails and changes nothing that can be seen;
* renaming a temporary file puts it in its place as a whole, or fails and
  changes nothing that can be seen;
* a temporary file that is removed is gone.

Which requests fail is part of the view, so nothing is assumed about that.

The commands are written for any host, and they do nothing with one but make
requests. So a command on a lawful host does what it does in the simulation,
and whatever is proved of the one holds of the other. `Follows` relates an
action of a host to one of the simulation. It is closed under sequencing
(`Follows.bind`), so each command follows its own text in the simulation, one
request after the other.

## Main definitions

* `LawfulHost`: The laws of a host.
* `LawfulHost.observe`: What an action answers, and the world that it leaves.
* `LawfulHost.Follows`: An action does what another one does in the simulation.

## Theorems

* `LawfulHost.observe_simulation`: Observing the simulation is running it.
* `LawfulHost.Follows.pure`, `LawfulHost.Follows.bind`: Actions follow step by
  step.
* `LawfulHost.follows_settle`, `LawfulHost.follows_replace`,
  `LawfulHost.follows_keep`, `LawfulHost.follows_save`: Saving on a lawful host.
* `LawfulHost.observe_load`, `LawfulHost.observe_check`,
  `LawfulHost.observe_patch`: The commands on a lawful host.
* `LawfulHost.observe_loadWith`: Loading a configuration on a lawful host.
-/

namespace Rerun

/-- The laws of a host. Its states are viewed as worlds, and each request does
    to the state what it does to the world. -/
class LawfulHost (m : Type → Type) [Host m] where
  /-- The states of the machine. -/
  State : Type
  /-- Runs an action from a state. -/
  run : {α : Type} → m α → State → α × State
  /-- What a command can see and change of a state. -/
  view : State → World
  /-- An action that makes no request leaves the state as it is. -/
  run_pure : ∀ {α : Type} (a : α) (state : State), run (pure a : m α) state = (a, state)
  /-- Actions are run one after the other. -/
  run_bind : ∀ {α β : Type} (action : m α) (next : α → m β) (state : State),
    run (action >>= next) state = run (next (run action state).1) (run action state).2
  /-- A file is read as it stands in the tree, unless the reading fails. -/
  read : ∀ path state, (run (Host.read path) state).map id view = (view state).read path
  /-- The permission bits are those in the tree, unless the question fails. -/
  mode : ∀ path state, (run (Host.mode path) state).map id view = (view state).mode path
  /-- An empty temporary file is made, unless that fails. -/
  create : ∀ path state, (run (Host.create path) state).map id view = (view state).create path
  /-- Bytes are added to a temporary file, unless that fails. -/
  fill : ∀ spare bytes state, (run (Host.fill spare bytes) state).map id view =
    (view state).alter spare fun draft => { draft with bytes := draft.bytes ++ bytes }
  /-- A temporary file is forced to the disk, unless that fails. -/
  sync : ∀ spare state, (run (Host.sync spare) state).map id view = (view state).alter spare id
  /-- A temporary file receives its permission bits, unless that fails. -/
  setMode : ∀ spare mode state, (run (Host.setMode spare mode) state).map id view =
    (view state).alter spare fun draft => { draft with mode }
  /-- A temporary file takes its place in the tree as a whole, unless that
      fails. -/
  rename : ∀ spare path state,
    (run (Host.rename spare path) state).map id view = (view state).rename spare path
  /-- A temporary file that is removed is gone. -/
  discard : ∀ spare state,
    (run (Host.discard spare) state).map id view = ((), (view state).discard spare)
  /-- A variable is looked up in the environment. -/
  environment? : ∀ name state, (run (Host.environment? name) state).map id view =
    ((view state).environment.lookup name, view state)
  /-- A log record is added to those there are. -/
  log : ∀ record state,
    (run (Host.log record) state).map id view = ((), (view state).log record)

/-- The simulation is lawful: its states are worlds. -/
instance : LawfulHost Simulation where
  State := World
  run := StateT.run
  view := id
  run_pure _ _ := rfl
  run_bind _ _ _ := rfl
  read _ _ := rfl
  mode _ _ := rfl
  create _ _ := rfl
  fill _ _ _ := rfl
  sync _ _ := rfl
  setMode _ _ _ := rfl
  rename _ _ _ := rfl
  discard _ _ := rfl
  environment? _ _ := rfl
  log _ _ := rfl

namespace LawfulHost

variable {m : Type → Type} [Host m] [LawfulHost m] {α β : Type}

/-- What an action answers, and the world that it leaves. -/
def observe (action : m α) (state : State m) : α × World :=
  (run action state).map id view

/-- An action of a host answers and leaves what an action of the simulation
    does. -/
def Follows (action : m α) (shadow : Simulation α) : Prop :=
  ∀ state, observe action state = shadow.run (view state)

theorem Follows.pure (a : α) : Follows (pure a : m α) (pure a) := by
  intro state
  rw [observe, run_pure]
  rfl

/-- Actions follow one after the other. -/
theorem Follows.bind {action : m α} {shadow : Simulation α} {next : α → m β}
    {shadowNext : α → Simulation β} (h : Follows action shadow)
    (hnext : ∀ a, Follows (next a) (shadowNext a)) :
    Follows (action >>= next) (shadow >>= shadowNext) := by
  intro state
  have hfirst := h state
  rw [Rerun.run_bind, ← hfirst, observe, run_bind]
  exact hnext _ _

section Saving

open Backup

/-- A step that fails ends the work on a temporary file, here and there. -/
theorem Follows.seq {first : m (Except Fault Unit)} {shadow : Simulation (Except Fault Unit)}
    {next : ExceptT Fault m Unit} {shadowNext : ExceptT Fault Simulation Unit}
    (h : Follows first shadow) (hnext : Follows next.run shadowNext.run) :
    Follows (do ExceptT.mk first; next : ExceptT Fault m Unit).run
      (do ExceptT.mk shadow; shadowNext : ExceptT Fault Simulation Unit).run := by
  change Follows (first >>= ExceptT.bindCont fun _ => next)
    (shadow >>= ExceptT.bindCont fun _ => shadowNext)
  refine Follows.bind h fun result => ?_
  cases result with
  | error fault => exact Follows.pure _
  | ok _ => exact hnext

theorem follows_settle (spare : Spare) (path : String) (bytes : List UInt8) (mode : Option Nat) :
    Follows (settle spare path bytes mode : ExceptT Fault m Unit).run
      (settle spare path bytes mode : ExceptT Fault Simulation Unit).run := by
  have hrename : Follows (Host.rename spare path : m _) (Host.rename spare path) :=
    LawfulHost.rename spare path
  refine Follows.seq (LawfulHost.fill spare bytes) (Follows.seq (LawfulHost.sync spare) ?_)
  cases mode with
  | none => exact hrename
  | some mode => exact Follows.seq (LawfulHost.setMode spare mode) hrename

theorem follows_replace (path : String) (bytes : List UInt8) (mode : Option Nat) :
    Follows (replace path bytes mode : m _) (replace path bytes mode) := by
  refine Follows.bind (LawfulHost.create path) fun created => ?_
  cases created with
  | error fault => exact Follows.pure _
  | ok spare =>
      refine Follows.bind (follows_settle spare path bytes mode) fun settled => ?_
      cases settled with
      | error fault => exact Follows.bind (LawfulHost.discard spare) fun _ => Follows.pure _
      | ok _ => exact Follows.pure _

theorem follows_keep (backup : String) (content : List UInt8) (mode : Option Nat) :
    Follows (keep backup content mode : m _) (keep backup content mode) := by
  refine Follows.bind (follows_replace backup content mode) fun replaced => ?_
  cases replaced with
  | error fault => exact Follows.pure _
  | ok _ =>
      refine Follows.bind (LawfulHost.read backup) fun found => ?_
      cases found <;> exact Follows.pure _

theorem follows_save (target suffix : String) (content : List UInt8) (text : List Char) :
    Follows (save target suffix content text : m _) (save target suffix content text) := by
  refine Follows.bind (LawfulHost.mode target) fun mode => ?_
  refine Follows.bind (follows_keep _ content mode.toOption) fun kept => ?_
  cases kept with
  | error problem => exact Follows.pure _
  | ok _ =>
      refine Follows.bind (LawfulHost.log _) fun _ => ?_
      refine Follows.bind (follows_replace target _ mode.toOption) fun replaced => ?_
      cases replaced with
      | error fault => exact Follows.pure _
      | ok _ => exact Follows.bind (LawfulHost.log _) fun _ => Follows.pure _

end Saving

section Commands

open Command

theorem follows_load (path : String) : Follows (load path : m _) (load path) := by
  refine Follows.bind (LawfulHost.read path) fun found => ?_
  cases found with
  | error fault => exact Follows.pure _
  | ok bytes =>
      refine Follows.bind (LawfulHost.log _) fun _ => ?_
      cases Script.ofBytes bytes <;> exact Follows.pure _

theorem follows_survey (config : Config) (script : Script) :
    Follows (survey config script : m _) (survey config script) := by
  refine Follows.bind (LawfulHost.log _) fun _ => ?_
  cases warning? config.target (script.patch config.rules).last with
  | none => exact Follows.pure _
  | some text => exact Follows.bind (LawfulHost.log _) fun _ => Follows.pure _

/-- A script is loaded from a lawful host as from a world. -/
theorem observe_load (path : String) (state : State m) :
    observe (load path : m _) state = (load path : Simulation _).run (view state) :=
  follows_load path state

/-- Checking on a lawful host is checking in a world. -/
theorem observe_check (config : Config) (state : State m) :
    observe (check config : m _) state = (check config : Simulation _).run (view state) := by
  refine Follows.bind (follows_load config.target) (fun loaded => ?_) state
  cases loaded with
  | error error => exact Follows.pure _
  | ok script => exact Follows.bind (follows_survey config script) fun _ => Follows.pure _

/-- Patching on a lawful host is patching in a world. -/
theorem observe_patch (config : Config) (dryRun : Bool) (state : State m) :
    observe (patch config dryRun : m _) state =
      (patch config dryRun : Simulation _).run (view state) := by
  refine Follows.bind (follows_load config.target) (fun loaded => ?_) state
  cases loaded with
  | error error => exact Follows.pure _
  | ok script =>
      refine Follows.bind (follows_survey config script) fun outcome => ?_
      refine Follows.bind (LawfulHost.log _) fun _ => ?_
      cases dryRun with
      | true => exact Follows.pure _
      | false =>
          -- Nothing is left but a record where nothing is to be written.
          cases !outcome.isChanged && !config.alwaysWrite with
          | true => exact Follows.bind (LawfulHost.log _) fun _ => Follows.pure _
          | false =>
              refine Follows.bind (follows_save _ _ _ _) fun saved => ?_
              cases saved <;> exact Follows.pure _

end Commands

section Loading

open Config

theorem follows_variableText? (name : String) :
    Follows (variableText? name : m _) (variableText? name) :=
  Follows.bind (LawfulHost.environment? name) fun _ => Follows.pure _

theorem follows_ofFile (parse : List Char → Option Sections) (file : Option String) :
    Follows (ofFile parse file : m _) (ofFile parse file) := by
  refine Follows.bind (LawfulHost.read _) fun found => ?_
  cases found.toOption.bind Utf8.decode? with
  | none => exact Follows.pure _
  | some text =>
      dsimp only
      cases parse text with
      | none => exact Follows.pure _
      | some sections => exact Follows.bind (LawfulHost.log _) fun _ => Follows.pure _

theorem follows_ofEnvironment : Follows (ofEnvironment : m _) ofEnvironment := by
  refine Follows.bind (follows_variableText? _) fun target => ?_
  refine Follows.bind (follows_variableText? _) fun suffix => ?_
  refine Follows.bind (follows_variableText? _) fun always => ?_
  cases always with
  | none => exact Follows.pure _
  | some text =>
      simp only [Option.bind_some]
      cases parseFlag? text with
      | none => exact Follows.bind (LawfulHost.log _) fun _ => Follows.pure _
      | some flag => exact Follows.pure _

/-- Loading a configuration on a lawful host is loading it in a world. -/
theorem observe_loadWith (parse : List Char → Option Sections) (file : Option String)
    (overrides : Layer) (state : State m) :
    observe (loadWith parse file overrides : m _) state =
      (loadWith parse file overrides : Simulation _).run (view state) := by
  refine Follows.bind (follows_ofFile parse file) (fun read => ?_) state
  cases read with
  | error problem => exact Follows.pure _
  | ok layer =>
      refine Follows.bind follows_ofEnvironment fun environment => ?_
      dsimp only
      cases check (overrides.onto (environment.onto (layer.onto {}))) <;> exact Follows.pure _

end Loading

end LawfulHost

end Rerun
