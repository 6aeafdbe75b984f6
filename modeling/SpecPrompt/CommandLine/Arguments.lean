import SpecPrompt.Settings
import SpecPrompt.Text.Split

/-!
# Arguments

The options of the command, and how a list of arguments is read. Arguments are read from left to
right: the first one that is wrong, or that asks for help or the version, decides. A value may
follow its option as an argument of its own, behind an equals sign, or behind the letter of a short
option.
-/

namespace SpecPrompt.CommandLine

/-- An option with a value. -/
inductive ValueOption where
  | dir
  | output
  | language
  | defaultLanguage
  | dedup
  | exclude
  | templates
  deriving DecidableEq, Repr

/-- An option without a value. -/
inductive Switch where
  | referenceFallback
  | backup
  | dryRun
  | verbose
  | help
  | version
  deriving DecidableEq, Repr

/-- An option of either kind. -/
inductive Opt where
  | value (option : ValueOption)
  | switch (switch : Switch)
  deriving DecidableEq, Repr

/-- The options by their long names. -/
def longNames : List (String × Opt) :=
  [("dir", .value .dir), ("output", .value .output), ("language", .value .language),
   ("default-language", .value .defaultLanguage), ("dedup", .value .dedup),
   ("exclude", .value .exclude), ("templates", .value .templates),
   ("reference-fallback", .switch .referenceFallback), ("backup", .switch .backup),
   ("dry-run", .switch .dryRun), ("verbose", .switch .verbose), ("help", .switch .help),
   ("version", .switch .version)]

/-- The options by their letters. -/
def shortNames : List (Char × Opt) :=
  [('d', .value .dir), ('o', .value .output), ('l', .value .language),
   ('v', .switch .verbose), ('h', .switch .help), ('V', .switch .version)]

/-- What the arguments ask for. -/
structure Arguments where
  dir : Option String := none
  output : Option String := none
  language : Option String := none
  defaultLanguage : Option String := none
  dedup : Option DuplicatePolicy := none
  exclude : List String := []
  templates : Option String := none
  referenceFallback : Bool := false
  backup : Bool := false
  dryRun : Bool := false
  verbosity : Nat := 0
  deriving DecidableEq, Repr

/-- Why arguments cannot be read. -/
inductive UsageError where
  | unexpected (argument : String)
  | repeated (option : Opt)
  | valueMissing (option : ValueOption)
  | valueUnexpected (switch : Switch)
  | valueInvalid (option : ValueOption) (value : String)
  deriving DecidableEq, Repr

/-- The long name of an option. -/
def Opt.name (option : Opt) : String :=
  "--" ++ ((longNames.find? fun entry => entry.2 = option).map Prod.fst).getD ""

/-- The wording of a usage error. -/
def UsageError.message : UsageError → String
  | unexpected argument => "error: unexpected argument '" ++ argument ++ "' found"
  | repeated option => "error: the argument '" ++ option.name ++ "' cannot be used multiple times"
  | valueMissing option =>
    "error: a value is required for '" ++ (Opt.value option).name ++ "' but none was supplied"
  | valueUnexpected switch =>
    "error: unexpected value for '" ++ (Opt.switch switch).name ++ "' found; no more were expected"
  | valueInvalid option value =>
    "error: invalid value '" ++ value ++ "' for '" ++ (Opt.value option).name ++ "'"

/-- What the command is asked to do. -/
inductive Request where
  | compile (arguments : Arguments)
  | showHelp
  | showVersion
  deriving DecidableEq, Repr

namespace Arguments

/-- The value of an option that can be given once. -/
def once {α : Type} (option : ValueOption) (old : Option α) (new : α) :
    Except UsageError (Option α) :=
  if old.isSome then .error (.repeated (.value option)) else .ok (some new)

/-- A path, which must not be empty. -/
def pathValue (option : ValueOption) (value : String) : Except UsageError String :=
  if value.isEmpty then .error (.valueInvalid option value) else .ok value

/-- The policy of a given name. -/
def policyValue (value : String) : Except UsageError DuplicatePolicy :=
  match value with
  | "last" => .ok .lastWins
  | "first" => .ok .firstWins
  | _ => .error (.valueInvalid .dedup value)

/-- The arguments with an option's value. -/
def setValue (a : Arguments) (option : ValueOption) (value : String) :
    Except UsageError Arguments := do
  match option with
  | .dir => .ok { a with dir := ← once option a.dir (← pathValue option value) }
  | .output => .ok { a with output := ← once option a.output (← pathValue option value) }
  | .language => .ok { a with language := ← once option a.language value }
  | .defaultLanguage =>
    .ok { a with defaultLanguage := ← once option a.defaultLanguage value }
  | .dedup => .ok { a with dedup := ← once option a.dedup (← policyValue value) }
  | .exclude => .ok { a with exclude := a.exclude ++ [value] }
  | .templates => .ok { a with templates := ← once option a.templates (← pathValue option value) }

/-- A switch turned on, which is possible once. -/
def turnOn (switch : Switch) (old : Bool) : Except UsageError Bool :=
  if old then .error (.repeated (.switch switch)) else .ok true

/-- The arguments with a switch, or the request that the switch makes. -/
def setSwitch (a : Arguments) (switch : Switch) : Except UsageError (Request ⊕ Arguments) := do
  match switch with
  | .referenceFallback =>
    .ok (.inr { a with referenceFallback := ← turnOn switch a.referenceFallback })
  | .backup => .ok (.inr { a with backup := ← turnOn switch a.backup })
  | .dryRun => .ok (.inr { a with dryRun := ← turnOn switch a.dryRun })
  | .verbose => .ok (.inr { a with verbosity := a.verbosity + 1 })
  | .help => .ok (.inl .showHelp)
  | .version => .ok (.inl .showVersion)

end Arguments

/-- What one argument amounts to. -/
inductive Effect where
  /-- It decides the request. -/
  | decided (request : Request)
  | continued (arguments : Arguments)
  /-- Its value is the next argument. -/
  | needsValue (option : ValueOption) (arguments : Arguments)

/-- Reads the letters of a cluster of short options, the text of the whole argument being
`argument`. -/
def readCluster (argument : String) (a : Arguments) : List Char → Except UsageError Effect
  | [] => .ok (.continued a)
  | letter :: rest =>
    match shortNames.lookup letter, rest with
    | none, _ => .error (.unexpected argument)
    | some (.value option), [] => .ok (.needsValue option a)
    | some (.value option), '=' :: value =>
      (a.setValue option (String.ofList value)).map .continued
    | some (.value option), value => (a.setValue option (String.ofList value)).map .continued
    | some (.switch switch), rest => do
      match ← a.setSwitch switch with
      | .inl request => .ok (.decided request)
      | .inr a => readCluster argument a rest

/-- Reads a long option, with a value behind an equals sign or without one. -/
def readLong (argument : String) (a : Arguments) (body : List Char) : Except UsageError Effect :=
  let (name, value) := match Chars.splitOnce ['='] body with
    | some (name, value) => (name, some (String.ofList value))
    | none => (body, none)
  match longNames.lookup (String.ofList name), value with
  | none, _ => .error (.unexpected argument)
  | some (.value option), some value => (a.setValue option value).map .continued
  | some (.value option), none => .ok (.needsValue option a)
  | some (.switch switch), some _ => .error (.valueUnexpected switch)
  | some (.switch switch), none => do
    match ← a.setSwitch switch with
    | .inl request => .ok (.decided request)
    | .inr a => .ok (.continued a)

/-- Reads one argument. -/
def readArgument (a : Arguments) (argument : String) : Except UsageError Effect :=
  match argument.toList with
  | '-' :: '-' :: body => readLong argument a body
  | '-' :: letter :: letters => readCluster argument a (letter :: letters)
  | _ => .error (.unexpected argument)

/-- Whether an argument can be the value of the option before it. -/
def isValue (argument : String) : Bool :=
  argument = "-" || argument.toList.head? ≠ some '-'

/-- Reads the arguments that follow those read into `a`, the last of which may wait for its
value. -/
def readFrom (a : Arguments) (waiting : Option ValueOption) :
    List String → Except UsageError Request
  | [] =>
    match waiting with
    | some option => .error (.valueMissing option)
    | none => .ok (.compile a)
  | argument :: rest => do
    match waiting with
    | some option =>
      if isValue argument then readFrom (← a.setValue option argument) none rest
      else .error (.valueMissing option)
    | none =>
      if argument = "--" then
        match rest with
        | [] => .ok (.compile a)
        | extra :: _ => .error (.unexpected extra)
      else match ← readArgument a argument with
        | .decided request => .ok request
        | .continued a => readFrom a none rest
        | .needsValue option a => readFrom a (some option) rest

/-- The request that a list of arguments makes. -/
def read (arguments : List String) : Except UsageError Request :=
  readFrom {} none arguments

/-- The settings that the arguments ask for. The language may come from the environment. -/
def Arguments.settings (a : Arguments) (environmentLanguage : Option String) : Settings :=
  let base : Settings := {}
  { root := (a.dir.map Path.mk).getD base.root
    output := (a.output.map Path.mk).getD base.output
    targetLanguage := a.language.or environmentLanguage
    defaultLanguage := a.defaultLanguage.getD base.defaultLanguage
    duplicates := a.dedup.getD base.duplicates
    extension := base.extension
    excludes := a.exclude
    templates := a.templates.map Path.mk
    referenceFallback := a.referenceFallback
    dryRun := a.dryRun
    backup := a.backup }

end SpecPrompt.CommandLine
