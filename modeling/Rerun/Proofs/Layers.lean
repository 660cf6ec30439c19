import Rerun.Proofs.LawfulHosts
import Rerun.Proofs.Encoding
import Rerun.Proofs.LetterCase

/-!
# Merging Configurations

What comes out of the four layers of a configuration. Each setting has its own
list of sources (`Config.Merges`): what the caller asks for, then the variable
of the environment, if the setting has one, then the value in the configuration
file, then the default. The first source that has a value decides, and nothing
else about the others matters.

The sources are put as predicates on values here, without the functions that
loading is made of. A file or a variable holds a text if its bytes are those
that the text is stored as, and a text stands for a truth value if it is one of
a few words (`Config.Says`). How a configuration file is taken apart into
sections is given from outside.

The layers are put on top of one another from the lowest to the highest, so a
later one must not hide what it leaves open. `Layer.onto` does that for one
layer, and `Config.First` goes through the sources of one setting from the
other end; `Config.merges_iff` says that it is the same.

Loading reads the file and the environment, merges, and checks last of all.
`Config.Loading` lists the ways in which this can end. A merged setting is all
that the check sees, so a bad value that a higher layer overrides shows up in
none of them.

## Main definitions

* `World.Holds`, `World.Sets`: A file and a variable that hold a text.
* `Config.Says`: The texts that stand for a truth value.
* `Config.First`: The first value that there is.
* `Config.Merges`: Each setting from its own sources.
* `Config.Given`: The sections that the configuration file gives.
* `Config.Merged`: The settings that the file and the other layers give.
* `Config.Loading`: The ways in which loading can end.

## Theorems

* `Text.trimBoth_cases`, `Text.trimBoth_eq`: What trimming leaves.
* `Config.parseFlag?_eq_some_iff`: Which texts are read as truth values.
* `Config.first_iff`: The first value, looked up in a list.
* `Config.merges_iff`: Layers on top of one another are the sources one after the
  other.
* `Config.check_cases`: What the check refuses.
* `Config.fileLayer_cases`: When a configuration file gives no layer.
* `Config.run_ofFile`, `Config.run_ofEnvironment`, `Config.run_loadWith`: What is
  loaded in a world.
* `Config.loading_loadWith`: How loading can end.
* `Config.Loading.fails_iff`: When it ends with an error.
* `Config.load_layers`: When loading fails, and what it gives.
-/

namespace Rerun

namespace Utf8

/-- Some bytes are read as a text exactly if the text is stored as them. -/
theorem decode?_eq_some_iff {bytes : List UInt8} {text : List Char} :
    decode? bytes = some text ↔ bytes = encode text := by
  unfold decode?
  constructor
  · intro h
    cases hdecode : decode bytes with
    | error offset =>
        rw [hdecode] at h
        cases h
    | ok found =>
        rw [hdecode] at h
        cases h
        exact (encode_of_decode hdecode).symm
  · rintro rfl
    rw [decode_encode]
    rfl

end Utf8

namespace World

/-- A file holds a text: it can be read, and its bytes are those that the text
    is stored as. -/
def Holds (world : World) (path : String) (text : List Char) : Prop :=
  (world.read path).1 = .ok (Utf8.encode text)

/-- A variable of the environment is set to a text. -/
def Sets (world : World) (name : String) (text : List Char) : Prop :=
  world.environment.lookup name = some (Utf8.encode text)

/-- A file as a text, if it holds one. -/
def text? (world : World) (path : String) : Option (List Char) :=
  (world.read path).1.toOption.bind Utf8.decode?

/-- A variable of the environment as a text, if it is set to one. -/
def envText? (world : World) (name : String) : Option (List Char) :=
  (world.environment.lookup name).bind Utf8.decode?

theorem holds_iff {world : World} {path : String} {text : List Char} :
    world.Holds path text ↔ world.text? path = some text := by
  unfold Holds text?
  cases (world.read path).1 with
  | error fault => exact ⟨nofun, nofun⟩
  | ok bytes =>
      rw [Except.ok.injEq]
      exact Utf8.decode?_eq_some_iff.symm

theorem sets_iff {world : World} {name : String} {text : List Char} :
    world.Sets name text ↔ world.envText? name = some text := by
  unfold Sets envText?
  cases world.environment.lookup name with
  | none => exact ⟨nofun, nofun⟩
  | some bytes => exact Option.some_inj.trans Utf8.decode?_eq_some_iff.symm

/-- A file that holds no text at all. -/
theorem text?_eq_none_iff {world : World} {path : String} :
    world.text? path = none ↔ ∀ text, ¬ world.Holds path text := by
  rw [Option.eq_none_iff_forall_ne_some]
  exact forall_congr' fun text => not_congr holds_iff.symm

end World

namespace Text

/-- Trimming takes away blanks, and from the two ends only. -/
theorem trimBoth_cases (text : List Char) :
    ∃ before after, text = before ++ trimBoth text ++ after ∧
      ∀ c ∈ before ++ after, isBlank c = true := by
  refine ⟨indentOf text, (indentOf (bodyOf text).reverse).reverse, ?_, ?_⟩
  · have hback : trimBoth text ++ (indentOf (bodyOf text).reverse).reverse = bodyOf text := by
      rw [trimBoth, ← List.reverse_append, indentOf_append_bodyOf, List.reverse_reverse]
    rw [List.append_assoc, hback, indentOf_append_bodyOf]
  · intro c hc
    rw [List.mem_append, List.mem_reverse] at hc
    exact hc.elim isBlank_of_mem_indentOf isBlank_of_mem_indentOf

/-- Blanks around a word without blanks are what trimming takes away. -/
theorem trimBoth_eq {before word after : List Char}
    (hblank : ∀ c ∈ before ++ after, isBlank c = true) (hword : ∀ c ∈ word, isBlank c = false)
    (hne : word ≠ []) : trimBoth (before ++ word ++ after) = word := by
  have hbegins : ∀ (part more : List Char), part ≠ [] → (∀ c ∈ part, isBlank c = false) →
      (part ++ more).head?.any isBlank = false := by
    intro part more hpart hnone
    rcases List.exists_cons_of_ne_nil hpart with ⟨c, rest, rfl⟩
    exact hnone c List.mem_cons_self
  have hfront : bodyOf (before ++ word ++ after) = word ++ after := by
    rw [List.append_assoc]
    exact bodyOf_append (fun c hc => hblank c (List.mem_append_left _ hc))
      (hbegins word after hne hword)
  have hback : bodyOf (word ++ after).reverse = word.reverse := by
    rw [List.reverse_append]
    refine bodyOf_append ?_ ?_
    · exact fun c hc => hblank c (List.mem_append_right _ (List.mem_reverse.mp hc))
    · rw [← List.append_nil word.reverse]
      exact hbegins word.reverse [] (by simpa using hne)
        (fun c hc => hword c (List.mem_reverse.mp hc))
  rw [trimBoth, hfront, hback, List.reverse_reverse]

end Text

namespace Config

/-- The words that stand for a truth value. -/
def words : Bool → List String
  | true => ["1", "true", "yes", "on"]
  | false => ["0", "false", "no", "off"]

/-- A text stands for a truth value: apart from blanks around it, it is one of
    the words for the value, in any ASCII case. -/
def Says (text : List Char) (flag : Bool) : Prop :=
  ∃ before word after, text = before ++ word ++ after ∧
    (∀ c ∈ before ++ after, Text.isBlank c = true) ∧
    String.ofList (word.map Char.toLower) ∈ words flag

/-- A word for a truth value holds no blanks, and is not empty. -/
theorem of_mem_words {flag : Bool} {word : List Char}
    (h : String.ofList (word.map Char.toLower) ∈ words flag) :
    (∀ c ∈ word, Text.isBlank c = false) ∧ word ≠ [] := by
  have hwords : ∀ flag, ((words flag).all fun other =>
      other.toList.all (fun c => !Text.isBlank c) && !other.toList.isEmpty) = true := by decide
  have hall := List.all_eq_true.mp (hwords flag) _ h
  rw [Bool.and_eq_true, List.all_eq_true, String.toList_ofList] at hall
  rcases hall with ⟨hblank, hne⟩
  refine ⟨fun c hc => ?_, fun hnil => by simp [hnil] at hne⟩
  rw [← Text.isBlank_toLower]
  simpa using hblank _ (List.mem_map_of_mem hc)

/-- A truth value is read off the word that trimming leaves. -/
theorem parseFlag?_eq (text : List Char) (flag : Bool) :
    parseFlag? text = some flag ↔
      String.ofList ((Text.trimBoth text).map Char.toLower) ∈ words flag := by
  -- No word stands for both values, so the order of the two tests does not matter.
  have hapart : ∀ word ∈ words true, word ∉ words false := by decide
  unfold parseFlag?
  rw [← Text.lower]
  generalize String.ofList (Text.lower (Text.trimBoth text)) = word
  simp only [List.contains_iff_mem]
  change (if word ∈ words true then some true
    else if word ∈ words false then some false else none) = some flag ↔ word ∈ words flag
  by_cases hyes : word ∈ words true
  · rw [if_pos hyes]
    cases flag with
    | true => exact iff_of_true rfl hyes
    | false => exact iff_of_false (by decide) (hapart word hyes)
  · rw [if_neg hyes]
    by_cases hno : word ∈ words false
    · rw [if_pos hno]
      cases flag with
      | true => exact iff_of_false (by decide) hyes
      | false => exact iff_of_true rfl hno
    · rw [if_neg hno]
      cases flag with
      | true => exact iff_of_false (by decide) hyes
      | false => exact iff_of_false (by decide) hno

/-- The texts that are read as truth values are those that stand for one. -/
theorem parseFlag?_eq_some_iff {text : List Char} {flag : Bool} :
    parseFlag? text = some flag ↔ Says text flag := by
  rw [parseFlag?_eq]
  constructor
  · intro h
    rcases Text.trimBoth_cases text with ⟨before, after, htext, hblank⟩
    exact ⟨before, Text.trimBoth text, after, htext, hblank, h⟩
  · rintro ⟨before, word, after, rfl, hblank, hword⟩
    rcases of_mem_words hword with ⟨hnone, hne⟩
    rwa [Text.trimBoth_eq hblank hnone hne]

/-- A value comes from the first of some sources that has one, or it is the
    default if none of them has. A source is given by the values that it has. -/
inductive First {α : Type} (default : α) : List (α → Prop) → α → Prop where
  /-- The first source has the value. -/
  | here {source : α → Prop} {later : List (α → Prop)} {value : α} :
    source value → First default (source :: later) value
  /-- The first source has none, and the value comes from a later one. -/
  | later {source : α → Prop} {later : List (α → Prop)} {value : α} :
    (∀ other, ¬ source other) → First default later value → First default (source :: later) value
  /-- There are no sources left. -/
  | default : First default [] default

/-- The first value that is there, or the default if there is none. -/
def firstOf {α : Type} (default : α) : List (Option α) → α
  | [] => default
  | first :: later => first.getD (firstOf default later)

/-- What a source has is what is found in it. -/
def Gives {α : Type} (source : α → Prop) (found : Option α) : Prop :=
  ∀ value, source value ↔ found = some value

/-- The first value of some sources is the first one that is found. -/
theorem first_iff {α : Type} {default value : α} {sources : List (α → Prop)}
    {found : List (Option α)} (h : List.Forall₂ Gives sources found) :
    First default sources value ↔ value = firstOf default found := by
  induction h with
  | nil =>
      constructor
      · rintro ⟨⟩
        rfl
      · rintro rfl
        exact .default
  | @cons source option sources found hsource hlater ih =>
      cases option with
      | none =>
          have hempty : ∀ other, ¬ source other := fun other => by simp [hsource other]
          refine ⟨?_, fun heq => .later hempty (ih.mpr heq)⟩
          rintro (hhere | ⟨-, hfirst⟩)
          · exact absurd hhere (hempty value)
          · exact ih.mp hfirst
      | some a =>
          have hthere : source a := (hsource a).mpr rfl
          constructor
          · rintro (hhere | ⟨hempty, -⟩)
            · exact (Option.some.inj ((hsource value).mp hhere)).symm
            · exact absurd hthere (hempty a)
          · rintro rfl
            exact .here hthere

/-- What is found in the first two of some sources does not depend on the
    others. -/
theorem getD_of_first {α : Type} {first second : Option α} {value : α}
    (h : first = some value ∨ first = none ∧ second = some value) (default : α) :
    first.getD (second.getD default) = value := by
  rcases h with rfl | ⟨rfl, rfl⟩ <;> rfl

/-- Each setting of a run from its own sources: the caller, the environment,
    the configuration file, and the defaults. The environment has three of the
    settings. -/
structure Merges (overrides : Layer) (world : World) (sections : Sections) (config : Config) :
    Prop where
  target : First "src/main/resources/db/migration/dbiemr/V1__DB_IEMR.sql"
    [fun value => overrides.target = some value,
      fun value => world.Sets "IDEMSQL_TARGET" value.toList,
      fun value => ∃ part, sections.target = some part ∧ part.path = some value] config.target
  suffix : First ".bak"
    [fun value => overrides.suffix = some value,
      fun value => world.Sets "IDEMSQL_BACKUP_SUFFIX" value.toList,
      fun value => ∃ part, sections.backup = some part ∧ part.suffix = some value] config.suffix
  alwaysWrite : First false
    [fun value => overrides.alwaysWrite = some value,
      fun value => ∃ text, world.Sets "IDEMSQL_ALWAYS_WRITE" text ∧ Says text value,
      fun value => ∃ part, sections.backup = some part ∧ part.alwaysWrite = some value]
    config.alwaysWrite
  commentDrops : First true
    [fun value => overrides.commentDrops = some value,
      fun value => ∃ part, sections.rules = some part ∧ part.commentDrops = some value]
    config.rules.commentDrops
  insertGuards : First true
    [fun value => overrides.insertGuards = some value,
      fun value => ∃ part, sections.rules = some part ∧ part.insertGuards = some value]
    config.rules.insertGuards
  fixTypos : First true
    [fun value => overrides.fixTypos = some value,
      fun value => ∃ part, sections.rules = some part ∧ part.fixTypos = some value]
    config.rules.fixTypos

end Config

/-- The layer that the environment gives. -/
def World.environmentLayer (world : World) : Layer :=
  { target := (world.envText? "IDEMSQL_TARGET").map String.ofList
    suffix := (world.envText? "IDEMSQL_BACKUP_SUFFIX").map String.ofList
    alwaysWrite := (world.envText? "IDEMSQL_ALWAYS_WRITE").bind Config.parseFlag? }

/-- A variable that holds a text is looked up as a text. -/
theorem World.gives_text (world : World) (name : String) :
    Config.Gives (fun value => world.Sets name value.toList)
      ((world.envText? name).map String.ofList) := by
  intro value
  change world.Sets name value.toList ↔ _
  rw [sets_iff, Option.map_eq_some_iff]
  constructor
  · intro h
    exact ⟨value.toList, h, String.ofList_toList⟩
  · rintro ⟨text, htext, rfl⟩
    rwa [String.toList_ofList]

/-- A variable that holds a word for a truth value is looked up as one. -/
theorem World.gives_flag (world : World) (name : String) :
    Config.Gives (fun value => ∃ text, world.Sets name text ∧ Config.Says text value)
      ((world.envText? name).bind Config.parseFlag?) := by
  intro value
  simp only [Option.bind_eq_some_iff, sets_iff, Config.parseFlag?_eq_some_iff]

namespace Config

/-- Layers that are put on top of one another give each setting from the first
    of its sources, and there is no other way to do so. -/
theorem merges_iff {overrides : Layer} {world : World} {sections : Sections} {config : Config} :
    Merges overrides world sections config ↔
      config = overrides.onto (world.environmentLayer.onto (sections.layer.onto {})) := by
  have hcaller : ∀ {α : Type} (option : Option α),
      Gives (fun value => option = some value) option := fun _ _ => Iff.rfl
  have hpart : ∀ {α β : Type} (part : Option α) (setting : α → Option β),
      Gives (fun value => ∃ a, part = some a ∧ setting a = some value) (part.bind setting) :=
    fun _ _ _ => Option.bind_eq_some_iff.symm
  have htarget : List.Forall₂ Gives _ _ := .cons (hcaller overrides.target)
    (.cons (world.gives_text "IDEMSQL_TARGET") (.cons (hpart sections.target (·.path)) .nil))
  have hsuffix : List.Forall₂ Gives _ _ := .cons (hcaller overrides.suffix)
    (.cons (world.gives_text "IDEMSQL_BACKUP_SUFFIX")
      (.cons (hpart sections.backup (·.suffix)) .nil))
  have halways : List.Forall₂ Gives _ _ := .cons (hcaller overrides.alwaysWrite)
    (.cons (world.gives_flag "IDEMSQL_ALWAYS_WRITE")
      (.cons (hpart sections.backup (·.alwaysWrite)) .nil))
  have hdrops : List.Forall₂ Gives _ _ := .cons (hcaller overrides.commentDrops)
    (.cons (hpart sections.rules (·.commentDrops)) .nil)
  have hguards : List.Forall₂ Gives _ _ := .cons (hcaller overrides.insertGuards)
    (.cons (hpart sections.rules (·.insertGuards)) .nil)
  have htypos : List.Forall₂ Gives _ _ := .cons (hcaller overrides.fixTypos)
    (.cons (hpart sections.rules (·.fixTypos)) .nil)
  constructor
  · intro h
    rcases config with ⟨target, suffix, always, drops, guards, typos⟩
    obtain rfl := (first_iff htarget).mp h.target
    obtain rfl := (first_iff hsuffix).mp h.suffix
    obtain rfl := (first_iff halways).mp h.alwaysWrite
    obtain rfl := (first_iff hdrops).mp h.commentDrops
    obtain rfl := (first_iff hguards).mp h.insertGuards
    obtain rfl := (first_iff htypos).mp h.fixTypos
    rfl
  · rintro rfl
    exact
      { target := (first_iff htarget).mpr rfl
        suffix := (first_iff hsuffix).mpr rfl
        alwaysWrite := (first_iff halways).mpr rfl
        commentDrops := (first_iff hdrops).mpr rfl
        insertGuards := (first_iff hguards).mpr rfl
        fixTypos := (first_iff htypos).mpr rfl }

/-- The sections that a configuration file gives: those that its text is taken
    apart into, and none if it holds no text. -/
def Given (parse : List Char → Option Sections) (world : World) (path : String)
    (sections : Sections) : Prop :=
  (∃ text, world.Holds path text ∧ parse text = some sections) ∨
    (∀ text, ¬ world.Holds path text) ∧ sections = {}

/-- The sections that are given are those of the text, if it can be taken
    apart. -/
theorem given_iff {parse : List Char → Option Sections} {world : World} {path : String}
    {sections : Sections} (h : ∀ text, world.text? path = some text → parse text ≠ none) :
    Given parse world path sections ↔ sections = ((world.text? path).bind parse).getD {} := by
  unfold Given
  rw [← World.text?_eq_none_iff]
  simp only [World.holds_iff]
  cases htext : world.text? path with
  | none => simp
  | some text =>
      rcases Option.ne_none_iff_exists'.mp (h text htext) with ⟨found, hfound⟩
      simp [hfound, eq_comm]

/-- The check refuses an empty target, an empty suffix, and a suffix that could
    lead to another directory, and nothing else. -/
theorem check_cases (config : Config) :
    (config.check = .error .emptyTarget ∧ config.target = "") ∨
    (config.check = .error .emptySuffix ∧ config.suffix = "") ∨
    (config.check = .error (.separatorInSuffix config.suffix) ∧
      ('/' ∈ config.suffix.toList ∨ '\\' ∈ config.suffix.toList)) ∨
    (config.check = .ok () ∧ config.target ≠ "" ∧ config.suffix ≠ "" ∧
      '/' ∉ config.suffix.toList ∧ '\\' ∉ config.suffix.toList) := by
  have hseparator : (config.suffix.toList.any fun c => c == '/' || c == '\\') = true ↔
      '/' ∈ config.suffix.toList ∨ '\\' ∈ config.suffix.toList := by
    simp only [List.any_eq_true, Bool.or_eq_true, beq_iff_eq]
    constructor
    · rintro ⟨c, hc, rfl | rfl⟩
      · exact Or.inl hc
      · exact Or.inr hc
    · rintro (hslash | hback)
      · exact ⟨_, hslash, Or.inl rfl⟩
      · exact ⟨_, hback, Or.inr rfl⟩
  unfold check
  simp only [String.isEmpty_iff, hseparator]
  by_cases htarget : config.target = ""
  · exact Or.inl ⟨if_pos htarget, htarget⟩
  · rw [if_neg htarget]
    by_cases hsuffix : config.suffix = ""
    · exact Or.inr (Or.inl ⟨if_pos hsuffix, hsuffix⟩)
    · rw [if_neg hsuffix]
      by_cases hsep : '/' ∈ config.suffix.toList ∨ '\\' ∈ config.suffix.toList
      · exact Or.inr (Or.inr (Or.inl ⟨if_pos hsep, hsep⟩))
      · exact Or.inr (Or.inr (Or.inr ⟨if_neg hsep, htarget, hsuffix, not_or.mp hsep⟩))

/-- The layer that the configuration file gives by its text, or what is wrong
    with the file. -/
def fileLayer (parse : List Char → Option Sections) (file : Option String)
    (text? : Option (List Char)) : Except ConfigProblem Layer :=
  match text? with
  | some text =>
    match parse text with
    | none => .error (.malformed (file.getD defaultFile))
    | some sections => .ok sections.layer
  | none => if file.isSome then .error (.missing (file.getD defaultFile)) else .ok {}

/-- A file gives no layer if it is text but cannot be taken apart, or if it was
    asked for and is no text. Otherwise it gives what its sections say, and
    nothing where there is no file. -/
theorem fileLayer_cases (parse : List Char → Option Sections) (file : Option String)
    (text? : Option (List Char)) :
    (∃ text, text? = some text ∧ parse text = none ∧
      fileLayer parse file text? = .error (.malformed (file.getD defaultFile))) ∨
    (file.isSome = true ∧ text? = none ∧
      fileLayer parse file text? = .error (.missing (file.getD defaultFile))) ∨
    ((∀ text, text? = some text → parse text ≠ none) ∧ (file.isSome = true → text? ≠ none) ∧
      fileLayer parse file text? = .ok ((text?.bind parse).getD {}).layer) := by
  cases text? with
  | none =>
      by_cases hfile : file.isSome = true
      · exact Or.inr (Or.inl ⟨hfile, rfl, if_pos hfile⟩)
      · exact Or.inr (Or.inr ⟨nofun, fun h => absurd h hfile, if_neg hfile⟩)
  | some text =>
      cases hparse : parse text with
      | none => exact Or.inl ⟨text, rfl, hparse, by simp only [fileLayer, hparse]⟩
      | some sections =>
          refine Or.inr (Or.inr ⟨?_, fun _ => Option.some_ne_none text, ?_⟩)
          · rintro _ ⟨⟩
            rw [hparse]
            exact Option.some_ne_none sections
          · simp only [fileLayer, hparse, Option.bind_some, Option.getD_some]

section Running

variable (parse : List Char → Option Sections) (file : Option String) (overrides : Layer)
  (world : World)

/-- Reading the configuration file gives its layer. One misread less is to come
    then, and there may be a log record more. -/
theorem run_ofFile :
    ∃ records, (ofFile parse file : Simulation _).run world =
      (fileLayer parse file (world.text? (file.getD defaultFile)),
        { world with misreads := world.misreads.tail, records }) := by
  have hafter : (world.read (file.getD defaultFile)).2 =
      { world with misreads := world.misreads.tail } := by
    rw [World.read_eq]
  unfold ofFile
  rw [run_bind, run_read, hafter]
  -- What the file is read as is its text in the world.
  change ∃ records, StateT.run (match world.text? (file.getD defaultFile) with
    | some text => _
    | none => _) _ = _
  cases world.text? (file.getD defaultFile) with
  | none => exact ⟨world.records, rfl⟩
  | some text =>
      simp only [fileLayer]
      cases parse text with
      | none => exact ⟨world.records, rfl⟩
      | some sections => exact ⟨_, rfl⟩

/-- A variable is looked up in the world, which stays as it is. -/
theorem run_variableText? (name : String) :
    (variableText? name : Simulation _).run world = (world.envText? name, world) :=
  rfl

/-- Reading the environment gives its layer, whatever is reported of it. -/
theorem run_ofEnvironment :
    ∃ records, (ofEnvironment : Simulation _).run world =
      (world.environmentLayer, { world with records }) := by
  unfold ofEnvironment World.environmentLayer
  simp only [run_bind, run_variableText?]
  cases world.envText? "IDEMSQL_ALWAYS_WRITE" with
  | none => exact ⟨world.records, rfl⟩
  | some text =>
      simp only [Option.bind_some]
      -- A value that is not understood is the only reason for a log record.
      cases parseFlag? text with
      | none => exact ⟨_, rfl⟩
      | some flag => exact ⟨world.records, rfl⟩

/-- What loading comes to: the file is read, all layers are merged, and the
    result is checked. -/
theorem run_loadWith :
    ((loadWith parse file overrides : Simulation _).run world).1 =
      match fileLayer parse file (world.text? (file.getD defaultFile)) with
      | .error problem => .error (.config problem)
      | .ok layer =>
        let config := overrides.onto (world.environmentLayer.onto (layer.onto {}))
        match config.check with
        | .error problem => .error (.config problem)
        | .ok () => .ok config := by
  rcases run_ofFile parse file world with ⟨records, hfile⟩
  unfold loadWith
  rw [run_bind, hfile]
  cases fileLayer parse file (world.text? (file.getD defaultFile)) with
  | error problem => rfl
  | ok layer =>
      rcases run_ofEnvironment { world with misreads := world.misreads.tail, records } with
        ⟨records', henvironment⟩
      -- The environment is not changed by reading a file.
      rw [show World.environmentLayer { world with misreads := world.misreads.tail, records } =
        world.environmentLayer from rfl] at henvironment
      simp only
      rw [run_bind, henvironment]
      simp only
      cases check (overrides.onto (world.environmentLayer.onto (layer.onto {}))) with
      | error problem => rfl
      | ok _ => rfl

end Running

/-- The ways in which loading can end. They depend on the text of the
    configuration file, if there is one, and on the settings that are merged. -/
inductive Loading (parse : List Char → Option Sections) (file : Option String)
    (text? : Option (List Char)) (config : Config) : Except Error Config → Prop where
  /-- The file cannot be taken apart. -/
  | malformed (text : List Char) :
    text? = some text → parse text = none →
    Loading parse file text? config (.error (.config (.malformed (file.getD defaultFile))))
  /-- A file was asked for, and it is not there or no text. -/
  | missing :
    file.isSome = true → text? = none →
    Loading parse file text? config (.error (.config (.missing (file.getD defaultFile))))
  /-- The target is empty. -/
  | emptyTarget :
    config.target = "" → Loading parse file text? config (.error (.config .emptyTarget))
  /-- The suffix is empty. -/
  | emptySuffix :
    config.suffix = "" → Loading parse file text? config (.error (.config .emptySuffix))
  /-- The suffix could lead to another directory. -/
  | separator :
    '/' ∈ config.suffix.toList ∨ '\\' ∈ config.suffix.toList →
    Loading parse file text? config (.error (.config (.separatorInSuffix config.suffix)))
  /-- There are settings, and they are in order. -/
  | loaded :
    (∀ text, text? = some text → parse text ≠ none) → (file.isSome = true → text? ≠ none) →
    config.target ≠ "" → config.suffix ≠ "" → '/' ∉ config.suffix.toList →
    '\\' ∉ config.suffix.toList →
    Loading parse file text? config (.ok config)

/-- Loading ends in one of these ways. -/
theorem loading_loadWith (parse : List Char → Option Sections) (file : Option String)
    (overrides : Layer) (world : World) :
    let text? := world.text? (file.getD defaultFile)
    let sections := (text?.bind parse).getD {}
    Loading parse file text? (overrides.onto (world.environmentLayer.onto (sections.layer.onto {})))
      ((loadWith parse file overrides : Simulation _).run world).1 := by
  intro text? sections
  rw [run_loadWith]
  rcases fileLayer_cases parse file text? with ⟨text, htext, hparse, hlayer⟩ |
    ⟨hfile, hnone, hlayer⟩ | ⟨hparses, hthere, hlayer⟩
  · rw [hlayer]
    exact .malformed text htext hparse
  · rw [hlayer]
    exact .missing hfile hnone
  · rw [hlayer]
    dsimp only
    rcases check_cases (overrides.onto (world.environmentLayer.onto (sections.layer.onto {}))) with
      ⟨hcheck, htarget⟩ | ⟨hcheck, hsuffix⟩ | ⟨hcheck, hsep⟩ |
      ⟨hcheck, htarget, hsuffix, hslash, hback⟩
    · rw [hcheck]
      exact .emptyTarget htarget
    · rw [hcheck]
      exact .emptySuffix hsuffix
    · rw [hcheck]
      exact .separator hsep
    · rw [hcheck]
      exact .loaded hparses hthere htarget hsuffix hslash hback

namespace Loading

variable {parse : List Char → Option Sections} {file : Option String}
  {text? : Option (List Char)} {config : Config} {answer : Except Error Config}

/-- Loading fails for one of five reasons. -/
theorem fails_iff (h : Loading parse file text? config answer) :
    (∃ error, answer = .error error) ↔
      (∃ text, text? = some text ∧ parse text = none) ∨
      (file.isSome = true ∧ text? = none) ∨
      config.target = "" ∨ config.suffix = "" ∨
      '/' ∈ config.suffix.toList ∨ '\\' ∈ config.suffix.toList := by
  constructor
  · rintro ⟨error, rfl⟩
    cases h with
    | malformed text htext hparse => exact Or.inl ⟨text, htext, hparse⟩
    | missing hfile hnone => exact Or.inr (Or.inl ⟨hfile, hnone⟩)
    | emptyTarget htarget => exact Or.inr (Or.inr (Or.inl htarget))
    | emptySuffix hsuffix => exact Or.inr (Or.inr (Or.inr (Or.inl hsuffix)))
    | separator hsep => exact Or.inr (Or.inr (Or.inr (Or.inr hsep)))
  · intro hbad
    cases answer with
    | error error => exact ⟨error, rfl⟩
    | ok settings =>
        -- Settings that were loaded have none of the faults.
        exfalso
        cases h with
        | loaded hparses hthere htarget hsuffix hslash hback =>
            rcases hbad with ⟨text, htext, hparse⟩ | ⟨hfile, hnone⟩ | hempty | hempty | hsep | hsep
            · exact hparses text htext hparse
            · exact hthere hfile hnone
            · exact htarget hempty
            · exact hsuffix hempty
            · exact hslash hsep
            · exact hback hsep

/-- A target that is not empty is not refused. -/
theorem ne_emptyTarget (h : Loading parse file text? config answer) (hne : config.target ≠ "") :
    answer ≠ .error (.config .emptyTarget) := by
  rintro rfl
  cases h with
  | emptyTarget hempty => exact hne hempty

/-- A suffix that is in order is not refused. -/
theorem ne_suffixError (h : Loading parse file text? config answer) (hne : config.suffix ≠ "")
    (hslash : '/' ∉ config.suffix.toList) (hback : '\\' ∉ config.suffix.toList) :
    answer ≠ .error (.config .emptySuffix) ∧
      ∀ other, answer ≠ .error (.config (.separatorInSuffix other)) := by
  constructor
  · rintro rfl
    cases h with
    | emptySuffix hempty => exact hne hempty
  · rintro other rfl
    cases h with
    | separator hsep => exact hsep.elim hslash hback

end Loading

/-- Settings are merged from a configuration file and the other layers: the file
    gives its sections, and each setting comes from its own sources. -/
def Merged (parse : List Char → Option Sections) (file : Option String) (overrides : Layer)
    (world : World) (config : Config) : Prop :=
  ∃ sections, Given parse world (file.getD defaultFile) sections ∧
    Merges overrides world sections config

/-- There is one way to merge, if the file can be taken apart. -/
theorem merged_iff {parse : List Char → Option Sections} {file : Option String}
    {overrides : Layer} {world : World} {config : Config}
    (h : ∀ text, world.text? (file.getD defaultFile) = some text → parse text ≠ none) :
    Merged parse file overrides world config ↔
      config = overrides.onto (world.environmentLayer.onto
        ((((world.text? (file.getD defaultFile)).bind parse).getD {}).layer.onto {})) := by
  unfold Merged
  simp only [given_iff h, merges_iff, exists_eq_left]

/-- Loading fails on a lawful host if the configuration file holds a text that
    cannot be taken apart, if a file that was asked for holds no text, or if the
    merged settings are bad. If it does not fail, the settings are the merged
    ones, each from the first of its sources that has it, and no others are. A
    target or suffix that is in order is never refused on account of what it
    overrides. -/
theorem load_layers {m : Type → Type} [Host m] [LawfulHost m]
    (parse : List Char → Option Sections) (file : Option String) (overrides : Layer)
    (state : LawfulHost.State m) :
    let world := LawfulHost.view state
    let path := file.getD defaultFile
    let answer := (LawfulHost.observe (loadWith parse file overrides : m _) state).1
    ((∃ error, answer = .error error) ↔
      (∃ text, world.Holds path text ∧ parse text = none) ∨
      (file.isSome = true ∧ ∀ text, ¬ world.Holds path text) ∨
      ∃ config, Merged parse file overrides world config ∧
        (config.target = "" ∨ config.suffix = "" ∨
          '/' ∈ config.suffix.toList ∨ '\\' ∈ config.suffix.toList)) ∧
    (∀ config, answer = .ok config → Merged parse file overrides world config ∧
      ∀ other, Merged parse file overrides world other → other = config) ∧
    (∀ target,
      (overrides.target = some target ∨
        overrides.target = none ∧ world.Sets "IDEMSQL_TARGET" target.toList) →
      target ≠ "" → answer ≠ .error (.config .emptyTarget)) ∧
    ∀ suffix,
      (overrides.suffix = some suffix ∨
        overrides.suffix = none ∧ world.Sets "IDEMSQL_BACKUP_SUFFIX" suffix.toList) →
      suffix ≠ "" → '/' ∉ suffix.toList → '\\' ∉ suffix.toList →
      answer ≠ .error (.config .emptySuffix) ∧
        ∀ other, answer ≠ .error (.config (.separatorInSuffix other)) := by
  intro world path answer
  have hanswer : answer = ((loadWith parse file overrides : Simulation _).run world).1 :=
    congrArg Prod.fst (LawfulHost.observe_loadWith parse file overrides state)
  have hloading := loading_loadWith parse file overrides world
  rw [← hanswer] at hloading
  dsimp only at hloading
  generalize hconfig : overrides.onto (world.environmentLayer.onto
    ((((world.text? (file.getD defaultFile)).bind parse).getD {}).layer.onto {})) = config
    at hloading
  refine ⟨?_, ?_, ?_, ?_⟩
  · rw [hloading.fails_iff, World.text?_eq_none_iff]
    simp only [World.holds_iff]
    by_cases hbroken : ∃ text, world.text? path = some text ∧ parse text = none
    · exact iff_of_true (Or.inl hbroken) (Or.inl hbroken)
    · -- The sections are known, and so are the merged settings.
      have hparses : ∀ text, world.text? path = some text → parse text ≠ none :=
        fun text htext hnone => hbroken ⟨text, htext, hnone⟩
      simp only [merged_iff hparses, hconfig, exists_eq_left, path]
  · intro loaded hloaded
    rw [hloaded] at hloading
    cases hloading with
    | loaded hparses =>
        rw [merged_iff hparses]
        exact ⟨hconfig.symm, fun other hother => ((merged_iff hparses).mp hother).trans hconfig⟩
  · intro target hfirst hne
    have htarget : config.target = target := by
      rw [← hconfig]
      exact getD_of_first (hfirst.imp_right fun h => ⟨h.1, (world.gives_text _ _).mp h.2⟩) _
    exact hloading.ne_emptyTarget (by rwa [htarget])
  · intro suffix hfirst hne hslash hback
    have hsuffix : config.suffix = suffix := by
      rw [← hconfig]
      exact getD_of_first (hfirst.imp_right fun h => ⟨h.1, (world.gives_text _ _).mp h.2⟩) _
    exact hloading.ne_suffixError (by rwa [hsuffix]) (by rwa [hsuffix]) (by rwa [hsuffix])

/-- Settings from all four layers. The file has a target and a suffix that would
    be refused, and both are overridden, the one by the environment and the
    other by the caller. The environment says nothing about writing that could
    be understood, so the file decides. -/
theorem load_layers_four :
    let file := "[target]\npath = \"\"\n[backup]\nsuffix = \"a/b\"\nalways_write = true\n" ++
      "[rewrite]\ninsert_guards = false\n"
    let world : World :=
      { disk := Disk.empty.write "idemsql.toml" 0o644 (Utf8.encode file.toList)
        environment :=
          [("IDEMSQL_TARGET", Utf8.encode "env.sql".toList),
            ("IDEMSQL_ALWAYS_WRITE", Utf8.encode " maybe ".toList)] }
    let overrides : Layer := { suffix := some ".old", commentDrops := some false }
    let config : Config :=
      { target := "env.sql"
        suffix := ".old"
        alwaysWrite := true
        rules := { commentDrops := false, insertGuards := false, fixTypos := true } }
    ((loadWith Sections.ofToml? none overrides : Simulation _).run world).1 = .ok config ∧
      Merged Sections.ofToml? none overrides world config ∧
      ∀ other, Merged Sections.ofToml? none overrides world other → other = config := by
  intro file world overrides config
  have hloads : ((loadWith Sections.ofToml? none overrides : Simulation _).run world).1 =
      .ok config := by decide +kernel
  exact ⟨hloads,
    (load_layers (m := Simulation) Sections.ofToml? none overrides world).2.1 config hloads⟩

end Config

end Rerun
