import ListQuery.Command.Invocation
import ListQuery.Query.Form

/-! Carrying out a command line, given the files and variables around it. -/
namespace ListQuery.Command

open Text

structure Environment where
  files : Settings.Files
  vars : Settings.Variables
  /-- Whether the output goes to a terminal. -/
  terminal : Bool := false

structure Output where
  exitCode : UInt32
  stdout : String
  stderr : String
  deriving DecidableEq, Repr

def toolName : String := "qd"

def toolVersion : String := "0.3.0"

def helpText : String :=
  "Usage: qd <COMMAND>\n\nCommands:\n" ++
  "  check [-c FILE] [-e NAME] [-f text|json] QUERY\n" ++
  "  rules [--json]\n" ++
  "  setup completions [-s SHELL]\n"

/-- Color is on where a variable forces it, or else on a terminal unless a variable forbids it. -/
def Environment.color (environment : Environment) : Bool :=
  let value (name : String) := environment.vars.lookup name
  if (value "CLICOLOR_FORCE").any (· != "0") then true
  else if (value "NO_COLOR").isSome then false
  else environment.terminal && (value "CLICOLOR").all (· != "0")

def succeed (stdout : String) : Output := ⟨0, stdout ++ "\n", ""⟩

def fail (color : Bool) (message : String) (cause : Option String := none) : Output :=
  let causeText :=
    match cause with
    | some cause => "\n" ++ paint color .warning "Caused by:" ++ " " ++ cause ++ "\n"
    | none => ""
  ⟨1, "", paint color .failure "Error:" ++ " " ++ message ++ "\n" ++ causeText⟩

def usageError : Output := ⟨2, "", helpText⟩

def loadSettings (environment : Environment) (config : Option String) : Except Failure Settings :=
  match config with
  | some path => Settings.ofFile environment.files environment.vars path
  | none => (Settings.load environment.files environment.vars).result

def choosePolicy (settings : Settings) : Option String → Except Failure Policy
  | some name => settings.endpoint name
  | none => .ok {}

def judge (format : Format) (color : Bool) (settings : Settings) (policy : Policy)
    (query : String) : Output :=
  let source := Query.Source.ofPairs (Query.Pairs.parse query)
  match (Directives.ofSource source policy settings.parameters).result with
  | .ok directives => succeed (accepted format color directives)
  | .error rejection => ⟨1, rejected format color rejection ++ "\n", ""⟩

def runCheck (environment : Environment) (query : String) (config endpoint : Option String)
    (format : Format) : Output :=
  let color := environment.color
  match loadSettings environment config with
  | .error failure =>
    fail color ("Failed to load " ++ config.getD "configuration") (some failure.message)
  | .ok settings =>
    match choosePolicy settings endpoint with
    | .error failure => fail color failure.message
    | .ok policy => judge format color settings policy query

def runCompletions (environment : Environment) (shell : Option Shell) : Output :=
  match shell, environment.vars.lookup "SHELL" with
  | some shell, _ => succeed shell.opening
  | none, some path =>
    match Shell.ofPath path with
    | .ok shell => succeed shell.opening
    | .error message => fail environment.color message
  | none, none =>
    fail environment.color
      "Failed to detect shell. $SHELL not set. Use --shell to specify explicitly."
      (some "environment variable not found")

def Invocation.run (environment : Environment) : Invocation → Output
  | check query config endpoint format => runCheck environment query config endpoint format
  | rules format => succeed (Command.rules format environment.color)
  | completions shell => runCompletions environment shell
  | version name => succeed (name ++ " " ++ toolVersion)
  | help => ⟨0, helpText, ""⟩

def run (environment : Environment) (words : List String) : Output :=
  match Invocation.ofArguments environment.vars words with
  | some invocation => invocation.run environment
  | none => usageError

/-- The files whose content carrying out a command line may depend on. -/
def filesRead (vars : Settings.Variables) (words : List String) : List String :=
  match Invocation.ofArguments vars words with
  | some (.check _ (some path) _ _) => [path]
  | some (.check _ none _ _) => Settings.standardFiles
  | _ => []

end ListQuery.Command
