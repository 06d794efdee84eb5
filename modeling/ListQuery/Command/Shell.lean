import ListQuery.Text.Split

/-! The shells that completions can be made for. -/
namespace ListQuery.Command

inductive Shell where
  | bash | elvish | fish | powershell | zsh
  deriving DecidableEq, Repr

namespace Shell

def all : List Shell := [bash, elvish, fish, powershell, zsh]

def name : Shell → String
  | bash => "bash"
  | elvish => "elvish"
  | fish => "fish"
  | powershell => "powershell"
  | zsh => "zsh"

def ofName? (text : String) : Option Shell :=
  all.find? fun shell => shell.name == text

/-- How the completions for a shell begin. -/
def opening : Shell → String
  | bash => "_qd() \x7b"
  | elvish => "use builtin;"
  | fish =>
    "# Print an optspec for argparse to handle cmd's options that are independent of any subcommand."
  | powershell => "using namespace System.Management.Automation"
  | zsh => "#compdef qd"

/-- The last part of a path that names a file; a step up names none. -/
def fileName? (path : String) : Option String :=
  let parts := (Text.pieces (· == '/') path.toList).filter fun part => part != ['.']
  (parts.getLast?.filter fun part => part != ['.', '.']).map String.ofList

/-- The shell that the path of its program tells of, or what is wrong with the path. -/
def ofPath (path : String) : Except String Shell :=
  match fileName? path with
  | none => .error "Invalid shell path"
  | some name =>
    if name = "pwsh" then .ok powershell
    else
      match ofName? name with
      | some shell => .ok shell
      | none =>
        .error ("Unsupported shell: " ++ name ++
          ". Supported shells: bash, zsh, fish, powershell, elvish.\nUse --shell to specify explicitly.")

end Shell

end ListQuery.Command
