import ListQuery.Failure
import ListQuery.Log.Logged
import ListQuery.Settings.Basic
import ListQuery.Settings.Variables
import ListQuery.Toml.Reader

/-!
Settings from their layers: the defaults, then files, then environment variables, each laid over the
ones before. Only the tree that results is checked.
-/
namespace ListQuery.Settings

open Log

/-- The content of each file there is. A directory counts as an empty file. -/
abbrev Files := String → Option String

abbrev Variables := List (String × String)

/-- Looked for in this order, so that a later file is laid over an earlier one. -/
def standardFiles : List String := ["/etc/query-directives/config.toml", "query-directives.toml"]

def defaults : Document := encode ({} : Settings)

def ofTree (tree : Document) : Except Failure Settings :=
  match decode .ignored tree with
  | .ok settings => .ok settings
  | .fault path =>
    let keys := path.map PathStep.text
    .error (.settings keys ("invalid value for `" ++ String.intercalate "." keys ++ "`"))

/-- Lays the settings of a file's text over a tree. -/
def layFile (tree : Document) (text : String) : Except Failure Document :=
  match Toml.parse? text with
  | some upper => .ok (tree.overlay upper)
  | none => .error (.settings [] "invalid TOML")

/-- The settings of one text alone. -/
def ofToml (text : String) : Except Failure Settings :=
  (layFile defaults text).bind ofTree

def finish (vars : Variables) (tree : Document) : Except Failure Settings :=
  ofTree (tree.overlay (variablesTree vars))

/-- The settings of a given file, which must exist. -/
def ofFile (files : Files) (vars : Variables) (path : String) : Except Failure Settings :=
  match files path with
  | none => .error (.notFound ("configuration file " ++ path))
  | some text => (layFile defaults text).bind (finish vars)

/-- All files that exist are reported before any of them is read. -/
def load (files : Files) (vars : Variables) : Logged Failure Settings :=
  let found := standardFiles.filterMap fun path => (files path).map fun text => (path, text)
  ⟨found.map fun file => .settingsFile file.1,
    (found.foldlM (fun tree file => layFile tree file.2) defaults).bind (finish vars)⟩

def endpoint (settings : Settings) (name : String) : Except Failure Policy :=
  match settings.endpoints.find? name with
  | some policy => .ok policy
  | none => .error (.notFound ("endpoint `" ++ name ++ "`"))

def withEndpoint (settings : Settings) (name : String) (policy : Policy) : Settings :=
  { settings with endpoints := settings.endpoints.insert name policy }

end ListQuery.Settings
