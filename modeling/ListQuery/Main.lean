import ListQuery.Command.Run

/-! The command line tool. -/
namespace ListQuery.Command

/-- The environment as the system lists it, each variable ended by a null character. -/
def readVariables : IO Settings.Variables := do
  let content ← IO.FS.readFile "/proc/self/environ"
  let entries := Text.pieces (· == '\x00') content.toList
  pure (entries.map fun entry =>
    let (name, value) := Text.splitFirst '=' entry
    (String.ofList name, String.ofList (value.getD [])))

/-- The rest of an open file. What cannot be read, such as a directory, counts as empty. -/
def readRest (handle : IO.FS.Handle) : IO String := do
  try
    handle.readToEnd
  catch _ => pure ""

def readText? (path : String) : IO (Option String) := do
  try
    let handle ← IO.FS.Handle.mk path .read
    some <$> readRest handle
  catch _ => pure none

def readFiles (paths : List String) : IO (List (String × String)) := do
  let mut contents := []
  for path in paths do
    if let some text ← readText? path then
      contents := (path, text) :: contents
  pure contents

end ListQuery.Command

open ListQuery

def main (args : List String) : IO UInt32 := do
  let vars ← Command.readVariables
  let contents ← Command.readFiles (Command.filesRead vars args)
  let terminal ← (← IO.getStdout).isTty
  let files : Settings.Files := fun path => contents.lookup path
  let output := Command.run ⟨files, vars, terminal⟩ args
  IO.print output.stdout
  IO.eprint output.stderr
  pure output.exitCode
