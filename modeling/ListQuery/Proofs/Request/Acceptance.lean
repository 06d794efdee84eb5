import ListQuery.Proofs.Request.Filter
import ListQuery.Proofs.Request.Page
import ListQuery.Proofs.Request.Sort
import ListQuery.Request.Directives

/-!
# Acceptance: what a policy guarantees about the directives it lets through

A request is accepted exactly when its filters, its sort directive and its window are
(`ofSource_eq_ok_iff`). Nothing that a policy forbids is then left in the directives, whatever the
source holds and whatever the parameters are called (`ofSource_sound`).
-/
namespace ListQuery

open Request

theorem Directives.ofSource_eq_ok_iff (source : Query.Source) (policy : Policy)
    (names : ParameterNames) (directives : Directives) :
    (ofSource source policy names).result = .ok directives ↔
      (readFilters policy.filters (source.all names.filters)).result = .ok directives.filters ∧
      (readSort policy.sort (source.first names.sort)).result = .ok directives.sort ∧
      (readWindow policy.limit (source.first names.page) (source.first names.limit)).result =
        .ok directives.window := by
  simp only [ofSource, Log.Logged.result_bind_ok]
  constructor
  · intro accepted
    obtain ⟨filters, filtersRead, sort, sortRead, window, windowRead, made⟩ := accepted
    cases made
    exact ⟨filtersRead, sortRead, windowRead⟩
  · intro accepted
    obtain ⟨filtersRead, sortRead, windowRead⟩ := accepted
    exact ⟨_, filtersRead, _, sortRead, _, windowRead, rfl⟩

/--
What acceptance says about directives. The sort key is permitted, or it is the complete fallback of
the policy, which only a request without a sort directive gets. The limit is a number within the
bounds, or the fallback, which only a request without a number gets.
-/
structure Directives.Sound (source : Query.Source) (policy : Policy) (names : ParameterNames)
    (directives : Directives) : Prop where
  filters_admitted : ∀ criterion ∈ directives.filters, criterion.Admitted policy.filters
  sort_chosen :
    (∃ key, directives.sort = some key ∧ key.Admitted policy.sort ∧
      source.first names.sort = some key.text) ∨
    ((source.first names.sort = none ∨ source.first names.sort = some "") ∧
      ∀ key, directives.sort = some key ↔
        ∃ fallback, policy.sort.fallback = some fallback ∧
          fallback.property = some key.property ∧ key.property ≠ "" ∧
          fallback.direction = some key.direction)
  window_consistent : directives.window.Consistent
  limit_taken : LimitTaken policy.limit (source.first names.limit) directives.window.limit

theorem Directives.ofSource_sound (source : Query.Source) (policy : Policy)
    (names : ParameterNames) (directives : Directives)
    (accepted : (ofSource source policy names).result = .ok directives) :
    directives.Sound source policy names := by
  obtain ⟨filtersRead, sortRead, windowRead⟩ := (ofSource_eq_ok_iff _ _ _ _).mp accepted
  obtain ⟨_, admitted⟩ := (readFilters_eq_ok_iff _ _ _).mp filtersRead
  obtain ⟨consistent, _, taken⟩ := (readWindow_eq_ok_iff _ _ _ _).mp windowRead
  refine ⟨admitted, ?_, consistent, taken⟩
  have chosenSort := (readSort_eq_ok_iff _ _ _).mp sortRead
  rcases chosenSort with ⟨key, given, chosen, keyAdmitted⟩ | ⟨absent, chosen⟩
  · exact .inl ⟨key, chosen, keyAdmitted, given⟩
  · refine .inr ⟨absent, ?_⟩
    intro key
    rw [chosen, SortPolicy.fallbackKey_eq_some_iff]

/-- One parameter that carries the page and the limit at once. -/
theorem Directives.ofSource_sound_shared_name :
    let source : Query.Source := fun name =>
      if name = "q" then some (.multiple ["age:gte:18", "", "name:isnull"])
      else if name = "n" then some (.single " +3rd") else none
    let policy : Policy := {
      filters := ⟨⟨["name", "age"]⟩, ⟨[]⟩⟩
      sort := ⟨⟨["id"]⟩, some ⟨some "rank", some .descending⟩⟩
      limit := ⟨some 1, some 3, none⟩ }
    let names : ParameterNames := ⟨"q", "order", "n", "n"⟩
    let directives : Directives := {
      filters := [⟨"age", .greaterThanOrEquals, some "18"⟩, ⟨"name", .isNull, none⟩]
      sort := some ⟨"rank", .descending⟩
      window := ⟨3, 3, 3, 6⟩ }
    (ofSource source policy names).result = .ok directives ∧
      directives.Sound source policy names := by
  intro source policy names directives
  have accepted : (ofSource source policy names).result = .ok directives := rfl
  exact ⟨accepted, ofSource_sound source policy names directives accepted⟩

end ListQuery
