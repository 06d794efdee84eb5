import ListQuery.Settings.VariableValue
import ListQuery.Text.Blank
import ListQuery.Text.Split

/-! Environment variables as a tree of settings: the name gives the path, the value the leaf. -/
namespace ListQuery.Settings

open Text (dropWord trim)

def variablePrefix : String := "QUERY_DIRECTIVES_"

def lowercase (text : List Char) : List Char := text.map Char.toLower

/-- A double underscore separates keys, as a dot does. -/
def joinKeys : List Char → List Char
  | '_' :: '_' :: rest => '.' :: joinKeys rest
  | c :: rest => c :: joinKeys rest
  | [] => []

/-- The path that keys joined by dots stand for. No key may be empty. -/
def keyPath? (text : List Char) : Option (List String) :=
  let keys := text.splitOn '.'
  if keys.any List.isEmpty then none else some (keys.map String.ofList)

/--
The path that a variable name stands for. Case does not matter, nor do blanks around the name or
around what follows the prefix.
-/
def variablePath? (name : String) : Option (List String) :=
  (dropWord (lowercase variablePrefix.toList) (lowercase (trim name.toList))).bind fun rest =>
    keyPath? (trim (joinKeys rest))

/-- The tree that one variable gives, if its name belongs to the settings. -/
def variableTree? (name value : String) : Option Document :=
  (variablePath? name).map fun path => .nest path (variableValue value)

/-- All variables laid over each other in their order. -/
def variablesTree (vars : List (String × String)) : Document :=
  (vars.filterMap fun (name, value) => variableTree? name value).foldl Document.overlay
    (.table [])

end ListQuery.Settings
