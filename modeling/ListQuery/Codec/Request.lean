import ListQuery.Codec.Policy
import ListQuery.Envelope
import ListQuery.Request.Directives

/-! Requests and pages of results as trees. -/
namespace ListQuery

/-- A criterion without a value leaves the value out. -/
instance : Codec Criterion where
  encode criterion := .table (
    [("property", encode criterion.property), ("rule", encode criterion.rule)] ++
      criterion.value.toList.map fun value => ("value", encode value))
  decode surplus document :=
    (Members.ofDocument surplus ["property", "rule", "value"] document).andThen fun members =>
      Criterion.mk <$> members.required "property"
        <*> members.required "rule"
        <*> members.withDefault "value" none

instance : Codec SortKey where
  encode key := .table [
    ("direction", encode key.direction),
    ("property", encode key.property)]
  decode surplus document :=
    (Members.ofDocument surplus ["property", "direction"] document).andThen fun members =>
      SortKey.mk <$> members.required "property" <*> members.required "direction"

/-- The four numbers need not agree. -/
instance : Codec Window where
  encode window := .table [
    ("limit", encode window.limit),
    ("offset", encode window.offset),
    ("page", encode window.page),
    ("size", encode window.size)]
  decode surplus document :=
    (Members.ofDocument surplus ["page", "limit", "size", "offset"] document).andThen fun members =>
      Window.mk <$> members.required "page"
        <*> members.required "limit"
        <*> members.required "size"
        <*> members.required "offset"

instance : Codec ParameterNames where
  encode names := .table [
    ("filters", encode names.filters),
    ("limit", encode names.limit),
    ("page", encode names.page),
    ("sort", encode names.sort)]
  decode surplus document :=
    (Members.ofDocument surplus ["filters", "sort", "page", "limit"] document).andThen fun members =>
      ParameterNames.mk <$> members.withDefault "filters" "filters"
        <*> members.withDefault "sort" "sort"
        <*> members.withDefault "page" "page"
        <*> members.withDefault "limit" "limit"

instance : Codec Directives where
  encode directives := .table [
    ("filters", encode directives.filters),
    ("pagination", encode directives.window),
    ("sort", encode directives.sort)]
  decode surplus document :=
    (Members.ofDocument surplus ["filters", "sort", "pagination"] document).andThen fun members =>
      Directives.mk <$> members.required "filters"
        <*> members.withDefault "sort" none
        <*> members.required "pagination"

instance : Codec PageSummary where
  encode summary := .table [
    ("page", encode summary.page),
    ("size", encode summary.size),
    ("total", encode summary.total)]
  decode surplus document :=
    (Members.ofDocument surplus ["total", "page", "size"] document).andThen fun members =>
      PageSummary.mk <$> members.required "total"
        <*> members.required "page"
        <*> members.required "size"

instance {α : Type} [Codec α] : Codec (Envelope α) where
  encode envelope := .table [
    ("meta", encode envelope.summary),
    ("results", encode envelope.results)]
  decode surplus document :=
    (Members.ofDocument surplus ["results", "meta"] document).andThen fun members =>
      Envelope.mk <$> members.required "results" <*> members.required "meta"

end ListQuery
