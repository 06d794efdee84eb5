import ListQuery.Proofs.Request.Relevance
import Mathlib.Data.List.Induction

/-!
# Sources: pairs in a row, a map to lists of values, a map to single values

Each form of a source finds under a name what `Value.ofList?` makes of the values that it has there
(`ofPairs_eq_ofList?`, `ofMultimap_eq_ofList?`, `ofMap_eq_ofList?`). A map that files pairs under
their names has the values in the order of the pairs (`Pairs.filed_files`), so that it finds the same
as a scan over the pairs, and a request is answered the same from either (`Source.forms_agree`).
-/
namespace ListQuery.Query

/-! ## Values under one name -/

namespace Value

variable {values : List String}

theorem ofList?_eq_none_iff : ofList? values = none ↔ values = [] := by
  match values with
  | [] => simp [ofList?]
  | [_] => simp [ofList?]
  | _ :: _ :: _ => simp [ofList?]

theorem ofList?_eq_single_iff (value : String) :
    ofList? values = some (.single value) ↔ values = [value] := by
  match values with
  | [] => simp [ofList?]
  | [_] => simp [ofList?]
  | _ :: _ :: _ => simp [ofList?]

/-- Several values are two at least; there is no empty group. -/
theorem ofList?_eq_multiple_iff (several : List String) :
    ofList? values = some (.multiple several) ↔ values = several ∧ 2 ≤ several.length := by
  match values with
  | [] =>
    constructor
    · intro found
      cases found
    · intro grouped
      obtain ⟨rfl, long⟩ := grouped
      simp at long
  | [value] =>
    constructor
    · intro found
      cases found
    · intro grouped
      obtain ⟨rfl, long⟩ := grouped
      simp at long
  | first :: second :: rest =>
    simp only [ofList?, Option.some.injEq, multiple.injEq]
    constructor
    · intro same
      subst same
      exact ⟨rfl, Nat.le_add_left 2 rest.length⟩
    · intro grouped
      exact grouped.1

end Value

/-! ## Filing pairs under their names -/

namespace Pairs

/--
A map holds the values of every name in their order. A name without values may be missing from the
map, or be there with an empty list.
-/
def FiledIn (pairs : Pairs) (multimap : String → Option (List String)) : Prop :=
  ∀ name, (multimap name).getD [] = pairs.valuesOf name

/-- A value is put behind those that its name already has. -/
def file (multimap : String → Option (List String)) (pair : String × String) :
    String → Option (List String) := fun name =>
  if name = pair.1 then some ((multimap name).getD [] ++ [pair.2]) else multimap name

/-- The map that pairs make when they are filed one by one. -/
def filed (pairs : Pairs) : String → Option (List String) :=
  pairs.foldl file fun _ => none

theorem FiledIn.append_singleton {pairs : Pairs} {multimap : String → Option (List String)}
    (files : pairs.FiledIn multimap) (pair : String × String) :
    FiledIn (pairs ++ [pair]) (file multimap pair) := by
  intro name
  rw [valuesOf_append, file]
  by_cases same : name = pair.1
  · rw [if_pos same, valuesOf_cons_of_eq same.symm, Option.getD_some, files name]
    rfl
  · rw [if_neg same, valuesOf_cons_of_ne (Ne.symm same), files name]
    exact (List.append_nil _).symm

theorem filed_files (pairs : Pairs) : pairs.FiledIn pairs.filed := by
  induction pairs using List.reverseRecOn with
  | nil => exact fun _ => rfl
  | append_singleton before pair ih =>
    rw [filed, List.foldl_append]
    exact ih.append_singleton pair

/-- A map has exactly the pairs as its entries. -/
def EntriesOf (pairs : Pairs) (map : String → Option String) : Prop :=
  ∀ name value, map name = some value ↔ (name, value) ∈ pairs

theorem mem_valuesOf {pairs : Pairs} {name value : String} :
    value ∈ pairs.valuesOf name ↔ (name, value) ∈ pairs := by
  rw [valuesOf, List.mem_filterMap]
  constructor
  · intro found
    obtain ⟨⟨key, held⟩, member, chosen⟩ := found
    split at chosen
    next same =>
      cases chosen
      exact same ▸ member
    next => cases chosen
  · intro member
    exact ⟨(name, value), member, if_pos rfl⟩

theorem length_valuesOf (pairs : Pairs) (name : String) :
    (pairs.valuesOf name).length = pairs.countP (·.1 = name) := by
  induction pairs with
  | nil => rfl
  | cons pair rest ih =>
    by_cases same : pair.1 = name
    · rw [valuesOf_cons_of_eq same, List.length_cons, ih,
        List.countP_cons_of_pos (by simpa using same)]
    · rw [valuesOf_cons_of_ne same, ih, List.countP_cons_of_neg (by simpa using same)]

/-- Where no name repeats, a name has one value at most. -/
theorem length_valuesOf_le_one {pairs : Pairs} (distinct : (pairs.map Prod.fst).Nodup)
    (name : String) : (pairs.valuesOf name).length ≤ 1 := by
  induction pairs with
  | nil => exact Nat.zero_le 1
  | cons pair rest ih =>
    obtain ⟨fresh, distinct⟩ := List.nodup_cons.mp distinct
    by_cases same : pair.1 = name
    · have none_left : valuesOf rest name = [] := by
        refine List.eq_nil_iff_forall_not_mem.mpr fun value member => ?_
        exact fresh (List.mem_map.mpr ⟨_, mem_valuesOf.mp member, same.symm⟩)
      rw [valuesOf_cons_of_eq same, none_left]
      exact Nat.le_refl 1
    · rw [valuesOf_cons_of_ne same]
      exact ih distinct

theorem EntriesOf.toList_eq_valuesOf {pairs : Pairs} {map : String → Option String}
    (entries : pairs.EntriesOf map) (distinct : (pairs.map Prod.fst).Nodup) (name : String) :
    (map name).toList = pairs.valuesOf name := by
  have few := length_valuesOf_le_one distinct name
  cases found : map name with
  | none =>
    refine (List.eq_nil_iff_forall_not_mem.mpr fun value member => ?_).symm
    have present := (entries name value).mpr (mem_valuesOf.mp member)
    cases found.symm.trans present
  | some value =>
    have member := mem_valuesOf.mpr ((entries name value).mp found)
    match held : pairs.valuesOf name with
    | [] => simp [held] at member
    | [only] =>
      rw [held, List.mem_singleton] at member
      rw [member]
      rfl
    | _ :: _ :: _ => simp [held] at few

end Pairs

/-! ## The forms of a source -/

namespace Source

theorem ofPairs_eq_ofList? (pairs : Pairs) (name : String) :
    ofPairs pairs name = Value.ofList? (pairs.valuesOf name) := by
  rw [← all_ofPairs_eq_valuesOf, all_ofPairs]
  rfl

/-- A name with an empty list of values counts as missing. -/
theorem ofMultimap_eq_ofList? (multimap : String → Option (List String)) (name : String) :
    ofMultimap multimap name = Value.ofList? ((multimap name).getD []) := by
  rw [ofMultimap]
  cases multimap name with
  | none => rfl
  | some values => rfl

theorem ofMap_eq_ofList? (map : String → Option String) (name : String) :
    ofMap map name = Value.ofList? (map name).toList := by
  rw [ofMap]
  cases map name with
  | none => rfl
  | some value => rfl

theorem ofMultimap_eq_ofPairs {pairs : Pairs} {multimap : String → Option (List String)}
    (files : pairs.FiledIn multimap) : ofMultimap multimap = ofPairs pairs := by
  funext name
  rw [ofMultimap_eq_ofList?, files name, ofPairs_eq_ofList?]

theorem ofMap_eq_ofPairs {pairs : Pairs} {map : String → Option String}
    (entries : pairs.EntriesOf map) (distinct : (pairs.map Prod.fst).Nodup) :
    ofMap map = ofPairs pairs := by
  funext name
  rw [ofMap_eq_ofList?, entries.toList_eq_valuesOf distinct, ofPairs_eq_ofList?]

/--
A scan over pairs finds nothing, one value or all values in their order, as the name occurs never,
once or more often. A map that holds the same values finds the same under every name, and so does a
map to single values where no name repeats; whichever of them a request comes from, it gets the same
answer, with the same events. Every list of pairs can be filed in such a map.
-/
theorem forms_agree (pairs : Pairs) :
    (∀ name,
      (ofPairs pairs name = none ↔ pairs.countP (·.1 = name) = 0) ∧
      (∀ value, ofPairs pairs name = some (.single value) ↔
        pairs.countP (·.1 = name) = 1 ∧ (name, value) ∈ pairs) ∧
      (∀ values, ofPairs pairs name = some (.multiple values) ↔
        2 ≤ pairs.countP (·.1 = name) ∧ pairs.valuesOf name = values)) ∧
    pairs.FiledIn pairs.filed ∧
    (∀ multimap, pairs.FiledIn multimap →
      (∀ name, ofMultimap multimap name = ofPairs pairs name) ∧
      ∀ policy names, Directives.ofSource (ofMultimap multimap) policy names =
        Directives.ofSource (ofPairs pairs) policy names) ∧
    ((pairs.map Prod.fst).Nodup → ∀ map, pairs.EntriesOf map →
      (∀ name, ofMap map name = ofPairs pairs name) ∧
      ∀ policy names, Directives.ofSource (ofMap map) policy names =
        Directives.ofSource (ofPairs pairs) policy names) := by
  refine ⟨fun name => ⟨?_, fun value => ?_, fun values => ?_⟩, pairs.filed_files, ?_, ?_⟩
  · rw [ofPairs_eq_ofList?, Value.ofList?_eq_none_iff, ← Pairs.length_valuesOf,
      List.length_eq_zero_iff]
  · rw [ofPairs_eq_ofList?, Value.ofList?_eq_single_iff, ← Pairs.length_valuesOf,
      List.length_eq_one_iff, ← Pairs.mem_valuesOf]
    constructor
    · intro held
      exact ⟨⟨value, held⟩, held ▸ List.mem_singleton_self value⟩
    · intro held
      obtain ⟨⟨only, single⟩, member⟩ := held
      rw [single, List.mem_singleton] at member
      rw [single, member]
  · rw [ofPairs_eq_ofList?, Value.ofList?_eq_multiple_iff, ← Pairs.length_valuesOf]
    constructor
    · intro held
      obtain ⟨rfl, long⟩ := held
      exact ⟨long, rfl⟩
    · intro held
      obtain ⟨long, rfl⟩ := held
      exact ⟨rfl, long⟩
  · intro multimap files
    have same := ofMultimap_eq_ofPairs files
    exact ⟨congrFun same, fun policy names => by rw [same]⟩
  · intro distinct map entries
    have same := ofMap_eq_ofPairs entries distinct
    exact ⟨congrFun same, fun policy names => by rw [same]⟩

/--
Names that take turns, and a map with an empty list under a name that no pair has. In the second part
no name repeats.
-/
theorem forms_agree_interleaved :
    let pairs : Pairs := [("filters", "age:gte:18"), ("page", "2"), ("filters", "name:like:bo")]
    let multimap : String → Option (List String) := fun name =>
      if name = "filters" then some ["age:gte:18", "name:like:bo"]
      else if name = "page" then some ["2"]
      else if name = "sort" then some [] else none
    let single : Pairs := [("page", "2"), ("limit", "10")]
    let map : String → Option String := fun name =>
      if name = "page" then some "2" else if name = "limit" then some "10" else none
    (pairs.FiledIn multimap ∧
      ofMultimap multimap "filters" = some (.multiple ["age:gte:18", "name:like:bo"]) ∧
      ofMultimap multimap "sort" = none ∧
      Directives.ofSource (ofMultimap multimap) {} {} = Directives.ofSource (ofPairs pairs) {} {}) ∧
    ((single.map Prod.fst).Nodup ∧ single.EntriesOf map ∧
      Directives.ofSource (ofMap map) {} {} = Directives.ofSource (ofPairs single) {} {}) := by
  intro pairs multimap single map
  have files : pairs.FiledIn multimap := by
    intro name
    by_cases filters : name = "filters"
    · subst filters
      rfl
    · by_cases page : name = "page"
      · subst page
        rfl
      · simp [multimap, pairs, Pairs.valuesOf, filters, page, Ne.symm filters, Ne.symm page]
        split <;> rfl
  have distinct : (single.map Prod.fst).Nodup := by decide
  have entries : single.EntriesOf map := by
    intro name value
    simp only [single, map]
    split
    next same => simp [same, eq_comm]
    next other =>
      split
      next same => simp [same, eq_comm]
      next neither => simp [other, neither]
  obtain ⟨_, _, byLists, _⟩ := forms_agree pairs
  obtain ⟨sameFinds, sameAnswers⟩ := byLists multimap files
  refine ⟨⟨files, ?_, ?_, sameAnswers {} {}⟩, distinct, entries, ?_⟩
  · exact sameFinds "filters"
  · exact sameFinds "sort"
  · exact ((forms_agree single).2.2.2 distinct map entries).2 {} {}

end Source

end ListQuery.Query
