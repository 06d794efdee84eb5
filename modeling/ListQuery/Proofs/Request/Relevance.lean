import ListQuery.Proofs.Request.Filter
import ListQuery.Query.Form
import ListQuery.Request.Directives
import Mathlib.Logic.Relation

/-!
# Relevance: which values of a query can make a difference

Of the values under the filter name only those that are not empty are read, and of the values under
the three other names only the first (`ofSource_congr`). This holds also where names coincide. Where
they differ, changes to a query that touch no such value cannot be seen, one at a time
(`Pairs.Unseen.agree`) or many (`ofSource_relevant`).
-/
namespace ListQuery

namespace Query

/-- The values under a name, in their order. -/
def Pairs.valuesOf (pairs : Pairs) (name : String) : List String :=
  pairs.filterMap fun pair => if pair.1 = name then some pair.2 else none

namespace Pairs

theorem valuesOf_append (first second : Pairs) (name : String) :
    valuesOf (first ++ second) name = first.valuesOf name ++ second.valuesOf name :=
  List.filterMap_append

theorem valuesOf_cons_of_eq {pair : String × String} {name : String} (same : pair.1 = name)
    (rest : Pairs) : valuesOf (pair :: rest) name = pair.2 :: rest.valuesOf name := by
  simp only [valuesOf, List.filterMap_cons, if_pos same]

theorem valuesOf_cons_of_ne {pair : String × String} {name : String} (other : pair.1 ≠ name)
    (rest : Pairs) : valuesOf (pair :: rest) name = rest.valuesOf name := by
  simp only [valuesOf, List.filterMap_cons, if_neg other]

theorem valuesOf_insert_of_ne {pair : String × String} {name : String} (other : pair.1 ≠ name)
    (before after : Pairs) :
    valuesOf (before ++ pair :: after) name = valuesOf (before ++ after) name := by
  rw [valuesOf_append, valuesOf_cons_of_ne other, ← valuesOf_append]

theorem valuesOf_ne_nil {pairs : Pairs} {name : String}
    (occurs : ∃ pair ∈ pairs, pair.1 = name) : pairs.valuesOf name ≠ [] := by
  obtain ⟨pair, member, same⟩ := occurs
  refine List.ne_nil_of_mem (a := pair.2) ?_
  exact List.mem_filterMap.mpr ⟨pair, member, if_pos same⟩

/-- Behind a first value nothing changes which one is first. -/
theorem head?_valuesOf_insert_of_mem {name : String} {before : Pairs}
    (occurs : ∃ pair ∈ before, pair.1 = name) (pair : String × String) (after : Pairs) :
    (valuesOf (before ++ pair :: after) name).head? = (valuesOf (before ++ after) name).head? := by
  obtain ⟨first, rest, shape⟩ := List.exists_cons_of_ne_nil (valuesOf_ne_nil occurs)
  rw [valuesOf_append, valuesOf_append, shape]
  rfl

end Pairs

theorem Source.all_ofPairs_eq_valuesOf (pairs : Pairs) (name : String) :
    (ofPairs pairs).all name = pairs.valuesOf name := by
  induction pairs with
  | nil => rfl
  | cons pair rest ih =>
    rw [all_ofPairs] at ih ⊢
    by_cases same : pair.1 = name
    · rw [List.filter_cons_of_pos (by simpa using same), List.map_cons, ih,
        Pairs.valuesOf_cons_of_eq same]
    · rw [List.filter_cons_of_neg (by simpa using same), ih, Pairs.valuesOf_cons_of_ne same]

/-- Two queries with the same filters that are not empty and the same first values of the rest. -/
structure Pairs.Agree (names : ParameterNames) (first second : Pairs) : Prop where
  filters : (first.valuesOf names.filters).filter (· ≠ "") =
    (second.valuesOf names.filters).filter (· ≠ "")
  sort : (first.valuesOf names.sort).head? = (second.valuesOf names.sort).head?
  page : (first.valuesOf names.page).head? = (second.valuesOf names.page).head?
  limit : (first.valuesOf names.limit).head? = (second.valuesOf names.limit).head?

namespace Pairs.Agree

variable {names : ParameterNames} {first second third : Pairs}

theorem refl (pairs : Pairs) : pairs.Agree names pairs := ⟨rfl, rfl, rfl, rfl⟩

theorem symm (agree : first.Agree names second) : second.Agree names first :=
  ⟨agree.filters.symm, agree.sort.symm, agree.page.symm, agree.limit.symm⟩

theorem trans (agree : first.Agree names second) (onward : second.Agree names third) :
    first.Agree names third :=
  ⟨agree.filters.trans onward.filters, agree.sort.trans onward.sort,
    agree.page.trans onward.page, agree.limit.trans onward.limit⟩

end Pairs.Agree

/-- A change to a query that touches no value that is read, if the names differ. -/
inductive Pairs.Unseen (names : ParameterNames) : Pairs → Pairs → Prop where
  | unrelated (before after : Pairs) (pair : String × String) (notFilters : pair.1 ≠ names.filters)
      (notSort : pair.1 ≠ names.sort) (notPage : pair.1 ≠ names.page)
      (notLimit : pair.1 ≠ names.limit) :
      Unseen names (before ++ pair :: after) (before ++ after)
  | interleaved (before after : Pairs) (pair other : String × String)
      (different : pair.1 ≠ other.1) :
      Unseen names (before ++ pair :: other :: after) (before ++ other :: pair :: after)
  | emptyFilter (before after : Pairs) :
      Unseen names (before ++ (names.filters, "") :: after) (before ++ after)
  | repeated (before after : Pairs) (pair : String × String)
      (single : pair.1 = names.sort ∨ pair.1 = names.page ∨ pair.1 = names.limit)
      (earlier : ∃ first ∈ before, first.1 = pair.1) :
      Unseen names (before ++ pair :: after) (before ++ after)

end Query

def ParameterNames.Distinct (names : ParameterNames) : Prop :=
  [names.filters, names.sort, names.page, names.limit].Nodup

instance (names : ParameterNames) : Decidable names.Distinct :=
  inferInstanceAs (Decidable (List.Nodup _))

namespace Query.Pairs

/-- A pair that is no filter and comes after another of its name. -/
theorem Agree.repeated {names : ParameterNames} {before : Pairs} {pair : String × String}
    (notFilters : pair.1 ≠ names.filters) (earlier : ∃ first ∈ before, first.1 = pair.1)
    (after : Pairs) : Agree names (before ++ pair :: after) (before ++ after) := by
  have kept (name : String) : (valuesOf (before ++ pair :: after) name).head? =
      (valuesOf (before ++ after) name).head? := by
    by_cases same : pair.1 = name
    · exact head?_valuesOf_insert_of_mem (same ▸ earlier) pair after
    · rw [valuesOf_insert_of_ne same]
  exact ⟨by rw [valuesOf_insert_of_ne notFilters], kept _, kept _, kept _⟩

theorem valuesOf_swap {pair other : String × String} (different : pair.1 ≠ other.1)
    (before after : Pairs) (name : String) :
    valuesOf (before ++ pair :: other :: after) name =
      valuesOf (before ++ other :: pair :: after) name := by
  rw [valuesOf_append, valuesOf_append before]
  by_cases same : pair.1 = name
  · have skipped : other.1 ≠ name := fun also => different (same.trans also.symm)
    rw [valuesOf_cons_of_eq same, valuesOf_cons_of_ne skipped, valuesOf_cons_of_ne skipped,
      valuesOf_cons_of_eq same]
  · rw [valuesOf_cons_of_ne same]
    by_cases also : other.1 = name
    · rw [valuesOf_cons_of_eq also, valuesOf_cons_of_eq also, valuesOf_cons_of_ne same]
    · rw [valuesOf_cons_of_ne also, valuesOf_cons_of_ne also, valuesOf_cons_of_ne same]

/-- One unseen change leaves all values that are read as they were. -/
theorem Unseen.agree {names : ParameterNames} (distinct : names.Distinct) {first second : Pairs}
    (unseen : Unseen names first second) : Agree names first second := by
  simp only [ParameterNames.Distinct, List.nodup_cons, List.mem_cons, List.not_mem_nil, or_false,
    not_or] at distinct
  obtain ⟨⟨filters_sort, filters_page, filters_limit⟩, _⟩ := distinct
  cases unseen with
  | unrelated before after pair notFilters notSort notPage notLimit =>
    refine ⟨?_, ?_, ?_, ?_⟩
    · rw [valuesOf_insert_of_ne notFilters]
    · rw [valuesOf_insert_of_ne notSort]
    · rw [valuesOf_insert_of_ne notPage]
    · rw [valuesOf_insert_of_ne notLimit]
  | interleaved before after pair other different =>
    have same := valuesOf_swap different before after
    exact ⟨by rw [same], by rw [same], by rw [same], by rw [same]⟩
  | emptyFilter before after =>
    refine ⟨?_, ?_, ?_, ?_⟩
    · rw [valuesOf_append, valuesOf_append, valuesOf_cons_of_eq rfl, List.filter_append,
        List.filter_append, List.filter_cons_of_neg (by simp)]
    · rw [valuesOf_insert_of_ne filters_sort]
    · rw [valuesOf_insert_of_ne filters_page]
    · rw [valuesOf_insert_of_ne filters_limit]
  | repeated before after pair single earlier =>
    have notFilters : pair.1 ≠ names.filters := by
      rcases single with name | name | name
      · exact name ▸ Ne.symm filters_sort
      · exact name ▸ Ne.symm filters_page
      · exact name ▸ Ne.symm filters_limit
    exact .repeated notFilters earlier after

theorem agree_of_eqvGen {names : ParameterNames} (distinct : names.Distinct)
    {first second : Pairs} (changed : Relation.EqvGen (Unseen names) first second) :
    Agree names first second := by
  induction changed with
  | rel _ _ unseen => exact unseen.agree distinct
  | refl pairs => exact .refl pairs
  | symm _ _ _ ih => exact ih.symm
  | trans _ _ _ _ _ ih onward => exact ih.trans onward

end Query.Pairs

open Query Request

/-- Leaving out empty directives changes neither the outcome nor what is reported. -/
theorem Request.readFilters_filter (policy : FilterPolicy) (directives : List String) :
    readFilters policy (directives.filter (· ≠ "")) = readFilters policy directives := by
  induction directives with
  | nil => rfl
  | cons directive rest ih =>
    by_cases empty : directive = ""
    · subst empty
      rw [List.filter_cons_of_neg (by simp), ih, readFilters_cons_empty]
    · rw [List.filter_cons_of_pos (by simpa using empty), readFilters_cons _ _ _ empty, ih,
        readFilters_cons _ _ _ empty]

theorem Directives.ofSource_congr {first second : Source} {names : ParameterNames}
    (filters : (first.all names.filters).filter (· ≠ "") =
      (second.all names.filters).filter (· ≠ ""))
    (sort : first.first names.sort = second.first names.sort)
    (page : first.first names.page = second.first names.page)
    (limit : first.first names.limit = second.first names.limit) (policy : Policy) :
    ofSource first policy names = ofSource second policy names := by
  rw [ofSource, ofSource, ← readFilters_filter _ (first.all names.filters), filters,
    readFilters_filter, sort, page, limit]

theorem Directives.ofSource_agree {names : ParameterNames} {first second : Pairs}
    (agree : first.Agree names second) (policy : Policy) :
    ofSource (.ofPairs first) policy names = ofSource (.ofPairs second) policy names := by
  refine ofSource_congr ?_ ?_ ?_ ?_ policy
  · rw [Source.all_ofPairs_eq_valuesOf, Source.all_ofPairs_eq_valuesOf, agree.filters]
  all_goals rw [Source.first_eq_head?, Source.first_eq_head?, Source.all_ofPairs_eq_valuesOf,
    Source.all_ofPairs_eq_valuesOf]
  · exact agree.sort
  · exact agree.page
  · exact agree.limit

/--
Queries that agree on the values that are read give the same directives or the same rejection, and
the same events. Where the four names differ, so do queries that come from each other by unrelated
pairs, another interleaving, empty filters and repetitions of the other parameters.
-/
theorem Directives.ofSource_relevant :
    (∀ (first second : Pairs) (policy : Policy) (names : ParameterNames),
      first.Agree names second →
      (ofSource (.ofPairs first) policy names).result =
          (ofSource (.ofPairs second) policy names).result ∧
        (ofSource (.ofPairs first) policy names).events =
          (ofSource (.ofPairs second) policy names).events) ∧
    (∀ (first second : Pairs) (policy : Policy) (names : ParameterNames), names.Distinct →
      Relation.EqvGen (Pairs.Unseen names) first second →
      (ofSource (.ofPairs first) policy names).result =
          (ofSource (.ofPairs second) policy names).result ∧
        (ofSource (.ofPairs first) policy names).events =
          (ofSource (.ofPairs second) policy names).events) := by
  refine ⟨?_, ?_⟩
  · intro first second policy names agree
    have same := ofSource_agree agree policy
    exact ⟨congrArg _ same, congrArg _ same⟩
  · intro first second policy names distinct changed
    have same := ofSource_agree (Pairs.agree_of_eqvGen distinct changed) policy
    exact ⟨congrArg _ same, congrArg _ same⟩

/--
One name for two parameters in the first part. In the second a pair that is no parameter is taken
out, and a second sort directive after that.
-/
theorem Directives.ofSource_relevant_polluted :
    let policy : Policy := { limit := ⟨none, some 50, some 20⟩ }
    let shared : ParameterNames := ⟨"f", "s", "n", "n"⟩
    let noisy : Pairs := [("n", "7"), ("f", ""), ("x", "1"), ("f", "age:gte:18"), ("n", "90")]
    let plain : Pairs := [("f", "age:gte:18"), ("n", "7")]
    let polluted : Pairs := [("sort", "id:asc"), ("debug", "1"), ("sort", "name:desc")]
    let cleaned : Pairs := [("sort", "id:asc")]
    (noisy.Agree shared plain ∧
      (ofSource (.ofPairs noisy) policy shared).result =
          (ofSource (.ofPairs plain) policy shared).result ∧
        (ofSource (.ofPairs noisy) policy shared).events =
          (ofSource (.ofPairs plain) policy shared).events) ∧
    (ParameterNames.Distinct {} ∧ Relation.EqvGen (Pairs.Unseen {}) polluted cleaned ∧
      (ofSource (.ofPairs polluted) policy {}).result =
          (ofSource (.ofPairs cleaned) policy {}).result ∧
        (ofSource (.ofPairs polluted) policy {}).events =
          (ofSource (.ofPairs cleaned) policy {}).events) := by
  intro policy shared noisy plain polluted cleaned
  have agree : noisy.Agree shared plain := ⟨rfl, rfl, rfl, rfl⟩
  have distinct : ParameterNames.Distinct {} := by decide
  have unrelated : Pairs.Unseen {} polluted [("sort", "id:asc"), ("sort", "name:desc")] :=
    .unrelated [("sort", "id:asc")] [("sort", "name:desc")] ("debug", "1")
      (by decide) (by decide) (by decide) (by decide)
  have repeated : Pairs.Unseen {} [("sort", "id:asc"), ("sort", "name:desc")] cleaned :=
    .repeated [("sort", "id:asc")] [] ("sort", "name:desc") (.inl rfl)
      ⟨("sort", "id:asc"), List.mem_singleton_self _, rfl⟩
  have changed := Relation.EqvGen.trans _ _ _ (.rel _ _ unrelated) (.rel _ _ repeated)
  exact ⟨⟨agree, ofSource_relevant.1 noisy plain policy shared agree⟩, distinct, changed,
    ofSource_relevant.2 polluted cleaned policy {} distinct changed⟩

end ListQuery
