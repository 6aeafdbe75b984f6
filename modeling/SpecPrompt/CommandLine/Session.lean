import SpecPrompt.CommandLine.Arguments
import SpecPrompt.Summary

/-!
# Sessions

One call of the command: what it does to the files, what it prints, and its exit code.
-/

namespace SpecPrompt.CommandLine

/-- The text that the command prints for its version. -/
def versionText : String := "lnegc 0.2.0\n"

/-- The text that the command prints as help. -/
def helpText : String :=
  String.join ((fun line => line ++ "\n") <$>
    ["Compile LNEGC documents into code-generation prompts", "",
     "Usage: lnegc [OPTIONS]", "", "Options:",
     "  -d, --dir <PATH>               Project directory [default: lnegc]",
     "  -o, --output <PATH>            Output file [default: prompt.txt]",
     "  -l, --language <LANG>          Target language [env: LNEGC_LANGUAGE]",
     "      --default-language <LANG>  Language if nothing else names one [default: python]",
     "      --dedup <POLICY>           Document to keep of two with one name: last, first",
     "      --exclude <GLOB>           Documents to leave out (can be repeated)",
     "      --templates <DIR>          Directory with templates replacing the built-in ones",
     "      --reference-fallback       Show a stock implementation where there is none",
     "      --backup                   Keep a copy of an existing output file",
     "      --dry-run                  Write nothing",
     "  -v, --verbose...               Print more",
     "  -h, --help                     Print help",
     "  -V, --version                  Print version"])

/-- The part of a session that can fail. -/
inductive Stage where
  | settings
  | preparation
  | compilation
  deriving DecidableEq, Repr

/-- What the failure of a stage means. -/
def Stage.description : Stage → String
  | settings => "Failed to build configuration"
  | preparation => "Failed to create pipeline"
  | compilation => "Compilation failed"

/-- How a session ends. -/
inductive Ending where
  | helped
  | versionShown
  | misused (error : UsageError)
  | failed (stage : Stage) (failure : Failure)
  | finished (report : RunReport)

/-- A call of the command. -/
structure Session where
  /-- How much the session prints. -/
  verbosity : Nat
  /-- The changes to files in order, each with the workspace after it. -/
  changes : List (Change × Workspace)
  events : List Event
  ending : Ending

namespace Session

/-- The session in which the command compiles a project. -/
def compile (w : Workspace) (stamp : String) (verbosity : Nat) (settings : Settings) : Session :=
  match settings.validate w with
  | .error failure => ⟨verbosity, [], [], .failed .settings failure⟩
  | .ok () =>
    let prepared := Compiler.prepare w settings
    match prepared.result with
    | .error failure => ⟨verbosity, [], prepared.events, .failed .preparation failure⟩
    | .ok c =>
      let history := (c.run stamp).run w
      let ending := match history.result with
        | .error failure => .failed .compilation failure
        | .ok report => .finished report
      ⟨verbosity, history.changes, prepared.events ++ history.events, ending⟩

/-- The session for some arguments. -/
def ofArguments (w : Workspace) (stamp : String) (arguments : List String)
    (environmentLanguage : Option String) : Session :=
  match read arguments with
  | .error error => ⟨0, [], [], .misused error⟩
  | .ok .showHelp => ⟨0, [], [], .helped⟩
  | .ok .showVersion => ⟨0, [], [], .versionShown⟩
  | .ok (.compile a) => compile w stamp a.verbosity (a.settings environmentLanguage)

/-- The least severe level of the events that the session prints. -/
def level (s : Session) : Level :=
  match s.verbosity with
  | 0 => .info
  | 1 => .debug
  | _ => .trace

/-- The exit code. -/
def exitCode (s : Session) : UInt32 :=
  match s.ending with
  | .helped | .versionShown | .finished _ => 0
  | .failed _ _ => 1
  | .misused _ => 2

/-- What the session prints to standard output. -/
def standardOutput (s : Session) (clock : Clock) : String :=
  match s.ending with
  | .helped => helpText
  | .versionShown => versionText
  | .finished report => if s.verbosity = 0 then "" else report.summary clock
  | .misused _ | .failed _ _ => ""

/-- `message` with its lines set in by four blanks. -/
def indented (message : String) : String :=
  String.ofList ("    ".toList ++
    message.toList.flatMap fun c => if c = '\n' then "\n    ".toList else [c])

/-- The error message of a session that went wrong. A verbose one is followed by the cause. -/
def errorText (s : Session) : String :=
  match s.ending with
  | .helped | .versionShown | .finished _ => ""
  | .misused error => error.message ++ "\n"
  | .failed stage failure =>
    "Error: " ++ stage.description ++ ": " ++ failure.message ++ "\n" ++
      if s.verbosity = 0 then ""
      else "\n" ++ stage.description ++ "\n\nCaused by:\n" ++ indented failure.message ++ "\n"

end Session

end SpecPrompt.CommandLine
