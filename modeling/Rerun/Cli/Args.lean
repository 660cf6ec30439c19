import Rerun.Config

/-!
# Command Line Arguments

What the arguments of the program ask for. Flags and options are recognised
by their full names, and some also by a letter; letters can be combined after
one dash. The value of an option is the next argument, or follows directly:
after an equals sign for a name, with or without one for a letter. Two
dashes alone end the options, and a dash alone is a file name.

Arguments are read from left to right and the first thing that settles the
matter counts. A request for the version is answered as soon as it is met,
unless something before it was wrong. That two flags exclude each other is
found out only when all arguments have been read.

## Main definitions

* `Flag`, `Slot`: The flags, and the options that take a value.
* `Options`: What the arguments say.
* `Invocation`: What the program is asked to do.
* `Invocation.ofArgs`: The meaning of a list of arguments.
-/

namespace Rerun

namespace Cli

/-- The flags. -/
inductive Flag where
  | alwaysWrite
  | dryRun
  | check
  | diff
  | json
  | quiet
  | verbose
  | noCommentDrops
  | noInsertGuards
  | noFixTypos
deriving DecidableEq, Repr

/-- The options that take a value. -/
inductive Slot where
  | config
  | backupSuffix
deriving DecidableEq, Repr

/-- What a name or letter can stand for. -/
inductive Switch where
  | flag (flag : Flag)
  | slot (slot : Slot)
  | version
  | help
deriving DecidableEq, Repr

namespace Switch

/-- What a name stands for. -/
def ofName? : String → Option Switch
  | "config" => some (.slot .config)
  | "backup-suffix" => some (.slot .backupSuffix)
  | "always-write" => some (.flag .alwaysWrite)
  | "dry-run" => some (.flag .dryRun)
  | "check" => some (.flag .check)
  | "diff" => some (.flag .diff)
  | "json" => some (.flag .json)
  | "quiet" => some (.flag .quiet)
  | "verbose" => some (.flag .verbose)
  | "no-comment-drops" => some (.flag .noCommentDrops)
  | "no-insert-guards" => some (.flag .noInsertGuards)
  | "no-fix-typos" => some (.flag .noFixTypos)
  | "help" => some .help
  | "version" => some .version
  | _ => none

/-- What a letter stands for. -/
def ofLetter? : Char → Option Switch
  | 'c' => some (.slot .config)
  | 'q' => some (.flag .quiet)
  | 'v' => some (.flag .verbose)
  | 'h' => some .help
  | 'V' => some .version
  | _ => none

end Switch

/-- What the arguments say. -/
structure Options where
  flags : List Flag := []
  values : List (Slot × String) := []
  file : Option String := none
deriving DecidableEq, Repr

namespace Options

/-- Whether a flag was given. -/
def has (options : Options) (flag : Flag) : Bool :=
  options.flags.contains flag

/-- The value that was given for an option. -/
def value? (options : Options) (slot : Slot) : Option String :=
  options.values.lookup slot

/-- The configuration layer that the arguments describe. -/
def layer (options : Options) : Layer :=
  let whenGiven (flag : Flag) (value : Bool) : Option Bool :=
    if options.has flag then some value else none
  { target := options.file
    suffix := options.value? .backupSuffix
    alwaysWrite := whenGiven .alwaysWrite true
    commentDrops := whenGiven .noCommentDrops false
    insertGuards := whenGiven .noInsertGuards false
    fixTypos := whenGiven .noFixTypos false }

end Options

/-- What the program is asked to do. -/
inductive Invocation where
  /-- To work. -/
  | run (options : Options)
  | version
  | help
  /-- The arguments make no sense. -/
  | misuse
deriving DecidableEq, Repr

namespace Invocation

/-- What reading some arguments has led to: an answer that no further
    argument changes, or what was read so far and the option whose value must
    come next. -/
inductive Progress where
  | settled (answer : Invocation)
  | reading (options : Options) (awaiting : Option Slot)
deriving DecidableEq, Repr

/-- Takes a flag into account. No flag can be given twice. -/
def addFlag (options : Options) (flag : Flag) : Progress :=
  if options.has flag then .settled .misuse
  else .reading { options with flags := options.flags ++ [flag] } none

/-- Takes a value into account. No option can be given twice. -/
def addValue (options : Options) (slot : Slot) (value : String) : Progress :=
  if (options.value? slot).isSome then .settled .misuse
  else .reading { options with values := options.values ++ [(slot, value)] } none

/-- Takes a file name into account. There is one at most, and it is not
    empty. -/
def addFile (options : Options) (file : String) : Progress :=
  if options.file.isSome || file.isEmpty then .settled .misuse
  else .reading { options with file := some file } none

/-- Reads what follows two dashes. -/
def readName (options : Options) (text : List Char) : Progress :=
  let name := String.ofList (text.takeWhile fun c => c != '=')
  let value := (text.dropWhile fun c => c != '=').tail?.map String.ofList
  match Switch.ofName? name, value with
  | some (.flag flag), none => addFlag options flag
  | some (.slot slot), none => .reading options (some slot)
  | some (.slot slot), some value => addValue options slot value
  | some .version, none => .settled .version
  | some .help, none => .settled .help
  | _, _ => .settled .misuse

/-- Reads the letters that follow one dash. -/
def readLetters (options : Options) : List Char → Progress
  | [] => .reading options none
  | c :: rest =>
    match Switch.ofLetter? c with
    | some (.flag flag) =>
      match addFlag options flag with
      | .reading options _ => readLetters options rest
      | settled => settled
    | some (.slot slot) =>
      match rest with
      | [] => .reading options (some slot)
      | '=' :: value => addValue options slot (String.ofList value)
      | value => addValue options slot (String.ofList value)
    | some .version => .settled .version
    | some .help => .settled .help
    | none => .settled .misuse

/-- Reads one argument. A value that is awaited cannot begin with a dash,
    unless it is nothing but a dash. -/
def readArg (options : Options) (awaiting : Option Slot) (arg : String) : Progress :=
  match awaiting, arg.toList with
  | some _, '-' :: _ :: _ => .settled .misuse
  | some slot, _ => addValue options slot arg
  | none, '-' :: '-' :: c :: rest => readName options (c :: rest)
  | none, '-' :: c :: rest => readLetters options (c :: rest)
  | none, _ => addFile options arg

/-- Reads arguments that are file names, whatever they look like. -/
def readFiles (options : Options) : List String → Progress
  | [] => .reading options none
  | arg :: rest =>
    match addFile options arg with
    | .reading options _ => readFiles options rest
    | settled => settled

/-- Reads the arguments in order. -/
def readArgs (options : Options) (awaiting : Option Slot) : List String → Progress
  | [] => .reading options awaiting
  | "--" :: rest =>
    if awaiting.isSome then .settled .misuse else readFiles options rest
  | arg :: rest =>
    match readArg options awaiting arg with
    | .reading options awaiting => readArgs options awaiting rest
    | settled => settled

/-- What a list of arguments asks for. -/
def ofArgs (args : List String) : Invocation :=
  match readArgs {} none args with
  | .settled answer => answer
  | .reading _ (some _) => .misuse
  | .reading options none =>
    if options.has .dryRun && options.has .check then .misuse else .run options

end Invocation

end Cli

end Rerun
