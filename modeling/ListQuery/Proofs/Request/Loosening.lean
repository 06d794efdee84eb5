import ListQuery.Proofs.Request.Acceptance

/-!
# Loosening: a wider policy keeps every accepted request as it was

An empty list allows everything, so the empty list is the loosest and not the strictest one. Each
reader accepts under a looser policy what it accepted before, with the same outcome, and so does the
reading of a whole request (`ofSource_monotone`).
-/
namespace ListQuery

/-- A list is looser than another if it is empty, or keeps all entries of one that is not. -/
def AllowList.Looser {α : Type} (looser list : AllowList α) : Prop :=
  looser.entries = [] ∨ (list.entries ≠ [] ∧ ∀ entry ∈ list.entries, entry ∈ looser.entries)

theorem AllowList.Looser.permits {α : Type} {looser list : AllowList α}
    (loosened : looser.Looser list) {value : α}
    (permitted : list.entries = [] ∨ value ∈ list.entries) :
    looser.entries = [] ∨ value ∈ looser.entries := by
  rcases loosened with unrestricted | ⟨restricted, kept⟩
  · exact .inl unrestricted
  · rcases permitted with empty | member
    · exact absurd empty restricted
    · exact .inr (kept value member)

/-- Lists with the same members are both empty or both not. -/
theorem AllowList.Looser.of_members {α : Type} {first second : AllowList α}
    (members : ∀ entry, entry ∈ first.entries ↔ entry ∈ second.entries) :
    first.Looser second := by
  by_cases empty : second.entries = []
  · refine .inl (List.eq_nil_iff_forall_not_mem.mpr ?_)
    intro entry member
    simpa [empty] using (members entry).mp member
  · exact .inr ⟨empty, fun entry member => (members entry).mpr member⟩

/-- A missing bound is looser than any, and fallbacks stay as they are. -/
structure LimitPolicy.Looser (looser policy : LimitPolicy) : Prop where
  minimum : looser.minimum = none ∨ ∃ low high, looser.minimum = some low ∧
    policy.minimum = some high ∧ low ≤ high
  maximum : looser.maximum = none ∨ ∃ low high, looser.maximum = some high ∧
    policy.maximum = some low ∧ low ≤ high
  fallback : looser.fallback = policy.fallback

structure Policy.Looser (looser policy : Policy) : Prop where
  filterFields : looser.filters.fields.Looser policy.filters.fields
  filterRules : looser.filters.rules.Looser policy.filters.rules
  sortFields : looser.sort.fields.Looser policy.sort.fields
  sortFallback : looser.sort.fallback = policy.sort.fallback
  limit : looser.limit.Looser policy.limit

/-- The same lists up to order and repetition, and the same limits and fallbacks. -/
structure Policy.SameMembers (first second : Policy) : Prop where
  filterFields : ∀ entry, entry ∈ first.filters.fields.entries ↔
    entry ∈ second.filters.fields.entries
  filterRules : ∀ entry, entry ∈ first.filters.rules.entries ↔
    entry ∈ second.filters.rules.entries
  sortFields : ∀ entry, entry ∈ first.sort.fields.entries ↔ entry ∈ second.sort.fields.entries
  sortFallback : first.sort.fallback = second.sort.fallback
  limit : first.limit = second.limit

theorem Policy.SameMembers.symm {first second : Policy} (same : first.SameMembers second) :
    second.SameMembers first where
  filterFields entry := (same.filterFields entry).symm
  filterRules entry := (same.filterRules entry).symm
  sortFields entry := (same.sortFields entry).symm
  sortFallback := same.sortFallback.symm
  limit := same.limit.symm

theorem LimitPolicy.Looser.refl (policy : LimitPolicy) : policy.Looser policy := by
  refine ⟨?_, ?_, rfl⟩
  · cases policy.minimum with
    | none => exact .inl rfl
    | some bound => exact .inr ⟨bound, bound, rfl, rfl, Int64.le_refl bound⟩
  · cases policy.maximum with
    | none => exact .inl rfl
    | some bound => exact .inr ⟨bound, bound, rfl, rfl, Int64.le_refl bound⟩

theorem Policy.SameMembers.looser {first second : Policy} (same : first.SameMembers second) :
    first.Looser second where
  filterFields := .of_members same.filterFields
  filterRules := .of_members same.filterRules
  sortFields := .of_members same.sortFields
  sortFallback := same.sortFallback
  limit := same.limit ▸ LimitPolicy.Looser.refl first.limit

namespace Request

theorem readFilters_loosened {policy looser : FilterPolicy}
    (fields : looser.fields.Looser policy.fields) (rules : looser.rules.Looser policy.rules)
    {raw : List String} {criteria : List Criterion}
    (accepted : (readFilters policy raw).result = .ok criteria) :
    (readFilters looser raw).result = .ok criteria := by
  obtain ⟨spelled, admitted⟩ := (readFilters_eq_ok_iff _ _ _).mp accepted
  refine (readFilters_eq_ok_iff _ _ _).mpr ⟨spelled, ?_⟩
  intro criterion member
  obtain ⟨formed, field, rule⟩ := admitted criterion member
  exact ⟨formed, fields.permits field, rules.permits rule⟩

theorem readSort_loosened {policy looser : SortPolicy}
    (fields : looser.fields.Looser policy.fields) (fallback : looser.fallback = policy.fallback)
    {raw : Option String} {sort : Option SortKey}
    (accepted : (readSort policy raw).result = .ok sort) :
    (readSort looser raw).result = .ok sort := by
  rw [readSort_eq_ok_iff] at accepted ⊢
  rcases accepted with ⟨key, given, chosen, admitted⟩ | ⟨absent, chosen⟩
  · exact .inl ⟨key, given, chosen, admitted.formed, fields.permits admitted.property_permitted⟩
  · refine .inr ⟨absent, ?_⟩
    rw [chosen, SortPolicy.fallbackKey, SortPolicy.fallbackKey, fallback]

theorem LimitTaken.loosened {policy looser : LimitPolicy} (loosened : looser.Looser policy)
    {raw : Option String} {limit : UInt64} (taken : LimitTaken policy raw limit) :
    LimitTaken looser raw limit := by
  cases taken with
  | fallback unread present => exact .fallback unread (loosened.fallback.trans present)
  | number value read minimum maximum same =>
    refine .number value read ?_ ?_ same
    · intro bound present
      rcases loosened.minimum with missing | ⟨low, high, lowEq, highEq, below⟩
      · simp [missing] at present
      · cases lowEq.symm.trans present
        exact Int64.le_trans below (minimum high highEq)
    · intro bound present
      rcases loosened.maximum with missing | ⟨low, high, highEq, lowEq, below⟩
      · simp [missing] at present
      · cases highEq.symm.trans present
        exact Int64.le_trans (maximum low lowEq) below

theorem readWindow_loosened {policy looser : LimitPolicy} (loosened : looser.Looser policy)
    {page limit : Option String} {window : Window}
    (accepted : (readWindow policy page limit).result = .ok window) :
    (readWindow looser page limit).result = .ok window := by
  rw [readWindow_eq_ok_iff] at accepted ⊢
  obtain ⟨consistent, pageEq, taken⟩ := accepted
  exact ⟨consistent, pageEq, taken.loosened loosened⟩

end Request

theorem Directives.ofSource_loosened {policy looser : Policy} (loosened : looser.Looser policy)
    {source : Query.Source} {names : ParameterNames} {directives : Directives}
    (accepted : (ofSource source policy names).result = .ok directives) :
    (ofSource source looser names).result = .ok directives := by
  obtain ⟨filters, sort, window⟩ := (ofSource_eq_ok_iff _ _ _ _).mp accepted
  exact (ofSource_eq_ok_iff _ _ _ _).mpr
    ⟨Request.readFilters_loosened loosened.filterFields loosened.filterRules filters,
      Request.readSort_loosened loosened.sortFields loosened.sortFallback sort,
      Request.readWindow_loosened loosened.limit window⟩

/--
An accepted request is accepted under every looser policy with the same directives, and policies
with the same members, limits and fallbacks accept the same requests with the same directives.
-/
theorem Directives.ofSource_monotone :
    (∀ (policy looser : Policy), looser.Looser policy →
      ∀ (source : Query.Source) (names : ParameterNames) (directives : Directives),
        (ofSource source policy names).result = .ok directives →
        (ofSource source looser names).result = .ok directives) ∧
    (∀ (first second : Policy), first.SameMembers second →
      ∀ (source : Query.Source) (names : ParameterNames) (directives : Directives),
        (ofSource source first names).result = .ok directives ↔
        (ofSource source second names).result = .ok directives) := by
  refine ⟨?_, ?_⟩
  · intro policy looser loosened source names directives accepted
    exact ofSource_loosened loosened accepted
  · intro first second same source names directives
    exact ⟨ofSource_loosened same.symm.looser, ofSource_loosened same.looser⟩

theorem Directives.ofSource_monotone_wider :
    let policy : Policy := {
      filters := ⟨⟨["age", "age"]⟩, ⟨[.equals, .lessThan]⟩⟩
      sort := ⟨⟨["id"]⟩, none⟩
      limit := ⟨some 5, some 50, some 20⟩ }
    let looser : Policy := {
      filters := ⟨⟨["name", "age"]⟩, ⟨[]⟩⟩
      sort := ⟨⟨["rank", "id"]⟩, none⟩
      limit := ⟨none, some 100, some 20⟩ }
    let source : Query.Source :=
      Query.Source.ofPairs [("filters", "age:lt:65"), ("sort", "id:desc"), ("limit", "50")]
    let directives : Directives := {
      filters := [⟨"age", .lessThan, some "65"⟩]
      sort := some ⟨"id", .descending⟩
      window := ⟨1, 50, 50, 0⟩ }
    looser.Looser policy ∧ (ofSource source policy {}).result = .ok directives ∧
      (ofSource source looser {}).result = .ok directives := by
  intro policy looser source directives
  have loosened : looser.Looser policy := by
    refine ⟨.inr (by decide), .inl rfl, .inr (by decide), rfl, ⟨.inl rfl, .inr ?_, rfl⟩⟩
    exact ⟨50, 100, rfl, rfl, by decide⟩
  have accepted : (ofSource source policy {}).result = .ok directives := rfl
  exact ⟨loosened, accepted,
    ofSource_monotone.1 policy looser loosened source {} directives accepted⟩

end ListQuery
