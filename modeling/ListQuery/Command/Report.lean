import ListQuery.Codec.Request
import ListQuery.Json.Printer
import ListQuery.Text.Ink

/-! What the command says about a query. -/
namespace ListQuery.Command

open Text

inductive Format where
  | text | json
  deriving DecidableEq, Repr

def filterLine (color : Bool) (criterion : Criterion) : String :=
  "    " ++ paint color .name criterion.property ++ " " ++ criterion.rule.name ++ " " ++
    criterion.value.getD ""

def filterLines (color : Bool) (criteria : List Criterion) : List String :=
  let heading := "  " ++ paint color .heading "filters:"
  if criteria.isEmpty then [heading ++ " " ++ paint color .faint "none"]
  else heading :: criteria.map (filterLine color)

def sortLine (color : Bool) (sort : Option SortKey) : String :=
  "  " ++ paint color .heading "sort:" ++ " " ++
    match sort with
    | some key => key.text
    | none => paint color .faint "none"

def windowLine (color : Bool) (window : Window) : String :=
  "  " ++ paint color .heading "pagination:" ++ " page " ++ toString window.page.toNat ++
    " limit " ++ toString window.limit.toNat ++ " offset " ++ toString window.offset.toNat

def acceptedLines (color : Bool) (directives : Directives) : List String :=
  [paint color .success "✓" ++ " query accepted"] ++ filterLines color directives.filters ++
    [sortLine color directives.sort, windowLine color directives.window]

def accepted (format : Format) (color : Bool) (directives : Directives) : String :=
  match format with
  | .text => String.intercalate "\n" (acceptedLines color directives)
  | .json =>
    Json.compact (.table [("accepted", .bool true), ("directives", encode directives)])

def rejected (format : Format) (color : Bool) (rejection : Rejection) : String :=
  match format with
  | .text =>
    paint color .failure "✗" ++ " query rejected [" ++ paint color .warning rejection.code ++
      "]: " ++ rejection.message
  | .json =>
    Json.compact (.table [
      ("accepted", .bool false),
      ("code", .text rejection.code),
      ("error", .text rejection.message)])

def ruleLine (color : Bool) (rule : Rule) : String :=
  let usage := "property:" ++ rule.token ++ if rule.isNullary then "" else ":value"
  "  " ++ paint color .name (padRight 10 rule.token) ++ " " ++ padRight 24 rule.name ++ " " ++
    paint color .faint usage

/-- All rules, in their order. -/
def rules (format : Format) (color : Bool) : String :=
  match format with
  | .text =>
    String.intercalate "\n" ([paint color .heading "Filter rules", ""] ++
      Rule.all.map (ruleLine color))
  | .json =>
    Json.indented (.list (Rule.all.map fun rule => .table [
      ("token", .text rule.token),
      ("name", .text rule.name),
      ("nullary", .bool rule.isNullary)]))

end ListQuery.Command
