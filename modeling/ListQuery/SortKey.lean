import ListQuery.Rejection
import ListQuery.Text.Regex

/-! The ordering of a list: a property and a direction, written `property:asc` or `property:desc`. -/
namespace ListQuery

inductive Direction where
  | ascending | descending
  deriving DecidableEq, Repr, Inhabited

namespace Direction

def all : List Direction := [ascending, descending]

def token : Direction → String
  | ascending => "asc"
  | descending => "desc"

def name : Direction → String
  | ascending => "ascending"
  | descending => "descending"

def ofToken? (token : String) : Option Direction :=
  all.find? fun direction => direction.token == token

def parse (token : String) : Except Rejection Direction :=
  match ofToken? token with
  | some direction => .ok direction
  | none => .error (.sortSyntax token)

@[simp] theorem ofToken?_token (direction : Direction) :
    ofToken? direction.token = some direction := by
  cases direction <;> decide

end Direction

structure SortKey where
  property : String
  direction : Direction
  deriving DecidableEq, Repr

namespace SortKey

def text (key : SortKey) : String :=
  key.property ++ ":" ++ key.direction.token

/-- The property and the direction of a directive that is spelled as a key. -/
def parts? (directive : String) : Option (String × String) :=
  (Text.Regex.capture ':' (.anyOf ["asc", "desc"]) (.oneOrMore Char.isAlphanum)
    directive.toList).map fun (property, direction) =>
      (String.ofList property, String.ofList direction)

end SortKey

end ListQuery
