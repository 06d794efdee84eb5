import ListQuery.Command.Arguments
import ListQuery.Command.Report
import ListQuery.Command.Shell
import ListQuery.Settings.Load

/-! What a command line asks for. -/
namespace ListQuery.Command

inductive Invocation where
  | check (query : String) (config endpoint : Option String) (format : Format)
  | rules (format : Format)
  | completions (shell : Option Shell)
  | version (name : String)
  | help
  deriving DecidableEq, Repr

namespace Invocation

def formatOfName? (name : String) : Option Format :=
  if name = "text" then some .text else if name = "json" then some .json else none

def checkFlags : List Flag := [
  { long := "config", short := 'c', accepts := some fun value => !value.isEmpty },
  { long := "endpoint", short := 'e', accepts := some fun _ => true },
  { long := "format", short := 'f', accepts := some fun value => (formatOfName? value).isSome }]

def rulesFlags : List Flag := [{ long := "json" }]

def completionsFlags : List Flag := [
  { long := "shell", short := 's', accepts := some fun value => (Shell.ofName? value).isSome }]

/-- None stands for a command line that cannot be carried out. -/
def ofStop (name : String) : Stop → Option Invocation
  | .usage => none
  | .help => some help
  | .version => some (version name)

/-- The configuration file may be named by a variable instead, but not by an empty one. -/
def checkOfArguments (vars : Settings.Variables) (arguments : Arguments) : Option Invocation :=
  let config := (arguments.value? "config").or (vars.lookup "QUERY_DIRECTIVES_CONFIG")
  if config = some "" then none
  else
    arguments.operands.head?.map fun query =>
      check query config (arguments.value? "endpoint")
        (((arguments.value? "format").bind formatOfName?).getD .text)

def ofCheck (vars : Settings.Variables) (words : List String) : Option Invocation :=
  match Arguments.read checkFlags 1 words with
  | .error stop => ofStop "qd-check" stop
  | .ok arguments => checkOfArguments vars arguments

def ofRules (words : List String) : Option Invocation :=
  match Arguments.read rulesFlags 0 words with
  | .error stop => ofStop "qd-rules" stop
  | .ok arguments => some (rules (if arguments.has "json" then .json else .text))

def ofCompletions (words : List String) : Option Invocation :=
  match Arguments.read completionsFlags 0 words with
  | .error stop => ofStop "qd-setup-completions" stop
  | .ok arguments => some (completions ((arguments.value? "shell").bind Shell.ofName?))

end Invocation

/-- A command, or a group that only leads to its members by their names. -/
inductive Menu where
  | command (read : List String → Option Invocation)
  | group (name : String) (members : List (String × Menu))

namespace Menu

/-- Whether a list of names leads to something there is help about, such as help itself. -/
def hasTopic : Menu → List String → Bool
  | _, [] => true
  | command _, _ :: _ => false
  | group _ members, word :: words =>
    match members.lookup word with
    | some member => member.hasTopic words
    | none => word == "help" && words.isEmpty

/-- A group needs the name of one of its members. -/
def read : Menu → List String → Option Invocation
  | command read, words => read words
  | group _ _, [] => none
  | group name members, word :: words =>
    match members.lookup word with
    | some member => member.read words
    | none =>
      if word = "help" then
        if (group name members).hasTopic words then some .help else none
      else
        match Arguments.read [] 0 [word] with
        | .error stop => Invocation.ofStop name stop
        | .ok _ => none

end Menu

def menu (vars : Settings.Variables) : Menu :=
  .group "qd" [
    ("check", .command (Invocation.ofCheck vars)),
    ("rules", .command Invocation.ofRules),
    ("setup", .group "qd-setup" [("completions", .command Invocation.ofCompletions)])]

def Invocation.ofArguments (vars : Settings.Variables) (words : List String) : Option Invocation :=
  (menu vars).read words

end ListQuery.Command
