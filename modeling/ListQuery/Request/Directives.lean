import ListQuery.Query.Source
import ListQuery.Request.Filter
import ListQuery.Request.Sort
import ListQuery.Request.Page

/-! All directives of a request: which items to list, in which order, and which window of them. -/
namespace ListQuery

structure ParameterNames where
  filters : String := "filters"
  sort : String := "sort"
  page : String := "page"
  limit : String := "limit"
  deriving DecidableEq, Repr

structure Directives where
  filters : List Criterion
  sort : Option SortKey
  window : Window
  deriving DecidableEq, Repr

namespace Directives

open Log Request

/-- Filters are read first, then the sort key, then the window; the first refusal decides. -/
def ofSource (source : Query.Source) (policy : Policy) (names : ParameterNames) :
    Logged Rejection Directives := do
  let filters ← readFilters policy.filters (source.all names.filters)
  let sort ← readSort policy.sort (source.first names.sort)
  let window ← readWindow policy.limit (source.first names.page) (source.first names.limit)
  pure ⟨filters, sort, window⟩

end Directives

end ListQuery
