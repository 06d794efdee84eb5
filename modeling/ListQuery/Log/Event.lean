import ListQuery.Criterion
import ListQuery.SortKey

/-! What the library reports while it works: one event per decision, each with a level and an origin. -/
namespace ListQuery.Log

inductive Level where
  | trace | debug | info | warn | error
  deriving DecidableEq, Repr

namespace Level

def name : Level → String
  | trace => "TRACE"
  | debug => "DEBUG"
  | info => "INFO"
  | warn => "WARN"
  | error => "ERROR"

/-- The higher, the more is said at this level. -/
def verbosity : Level → Nat
  | error => 1
  | warn => 2
  | info => 3
  | debug => 4
  | trace => 5

end Level

inductive FieldValue where
  | text (value : String)
  | number (value : Int64)
  deriving DecidableEq, Repr

inductive Event where
  | filterAccepted (criterion : Criterion)
  | filterRejected (directive code : String)
  | sortAccepted (key : SortKey)
  | sortRejected (directive code : String)
  | limitNotNumeric (raw : String)
  | limitBelowMinimum (limit minimum : Int64)
  | limitAboveMaximum (limit maximum : Int64)
  | settingsFile (path : String)
  | failure (description : String)
  | started (filter : String)
  deriving DecidableEq, Repr

namespace Event

def level : Event → Level
  | filterAccepted _ | sortAccepted _ => .trace
  | filterRejected _ _ | sortRejected _ _ => .debug
  | limitNotNumeric _ | limitBelowMinimum _ _ | limitAboveMaximum _ _ => .debug
  | settingsFile _ | started _ => .info
  | failure _ => .error

/-- The part of the library that reports, as filters name it. -/
def target : Event → String
  | filterAccepted _ | filterRejected _ _ => "query_directives::filter"
  | sortAccepted _ | sortRejected _ _ => "query_directives::sort"
  | limitNotNumeric _ | limitBelowMinimum _ _ | limitAboveMaximum _ _ =>
    "query_directives::pagination"
  | settingsFile _ => "query_directives::config"
  | failure _ => "query_directives::error"
  | started _ => "query_directives::observability"

def message : Event → String
  | filterAccepted _ => "accepted filter directive"
  | filterRejected _ _ => "rejected filter directive"
  | sortAccepted _ => "accepted sort directive"
  | sortRejected _ _ => "rejected sort directive"
  | limitNotNumeric _ => "rejected non-numeric page limit"
  | limitBelowMinimum _ _ => "page limit below minimum"
  | limitAboveMaximum _ _ => "page limit above maximum"
  | settingsFile path => "Loading configuration from: " ++ path
  | failure description => description
  | started _ => "Tracing initialized"

/-- The named values beside the message. -/
def details : Event → List (String × FieldValue)
  | filterAccepted criterion => [("criterion", .text criterion.text)]
  | filterRejected directive code => [("directive", .text directive), ("code", .text code)]
  | sortAccepted key => [("criterion", .text key.text)]
  | sortRejected directive code => [("directive", .text directive), ("code", .text code)]
  | limitNotNumeric raw => [("limit", .text raw)]
  | limitBelowMinimum limit minimum => [("limit", .number limit), ("min", .number minimum)]
  | limitAboveMaximum limit maximum => [("limit", .number limit), ("max", .number maximum)]
  | settingsFile _ => []
  | failure _ => []
  | started filter => [("log_level", .text filter)]

def fields (event : Event) : List (String × FieldValue) :=
  ("message", .text event.message) :: event.details

end Event

end ListQuery.Log
