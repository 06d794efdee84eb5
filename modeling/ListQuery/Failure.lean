import ListQuery.Log.Event
import ListQuery.Rejection

/-! What can go wrong around the directives themselves. -/
namespace ListQuery

inductive Failure where
  | rejected (rejection : Rejection)
  /-- Settings that cannot be used, and the path of the setting at fault. -/
  | settings (path : List String) (description : String)
  | malformedQuery (description : String)
  | inputOutput (description : String)
  | notFound (subject : String)
  | internal (description : String)
  deriving DecidableEq, Repr

namespace Failure

def message : Failure → String
  | rejected rejection => rejection.message
  | settings _ description => "Configuration error: " ++ description
  | malformedQuery description => "Malformed query string: " ++ description
  | inputOutput description => "I/O error: " ++ description
  | notFound subject => "Not found: " ++ subject
  | internal description => "Internal error: " ++ description

/-- Failures that a client is not told about are reported instead. -/
def report : Failure → List Log.Event
  | failure@(settings _ _) | failure@(inputOutput _) | failure@(internal _) =>
    [.failure failure.message]
  | _ => []

end Failure

end ListQuery
