import ListQuery.Proofs.Query.Form
import ListQuery.Proofs.Request.Acceptance

/-!
# Canonical queries: an accepted request written out again

Accepted directives are written as the query that says no more than the request did: each criterion
and each key by its text, and each number in decimal. Nothing in it needs an escape
(`canonicalPairs_values`), every value is found again under its name (`lookup_canonicalPairs`),
and every reader takes what it took before, so that the directives come back unchanged
(`ofSource_canonicalQuery`).
-/
namespace ListQuery

namespace Query

/-- One parameter, repeated for each of its values. -/
def Pairs.under (name : String) (values : List String) : Pairs :=
  values.map fun value => (name, value)

theorem Pairs.mem_under {name : String} {values : List String} {pair : String × String}
    (member : pair ∈ under name values) : pair.1 = name ∧ pair.2 ∈ values := by
  obtain ⟨value, listed, rfl⟩ := List.mem_map.mp member
  exact ⟨rfl, listed⟩

theorem Source.all_ofPairs_append (first second : Pairs) (name : String) :
    (ofPairs (first ++ second)).all name =
      (ofPairs first).all name ++ (ofPairs second).all name := by
  simp only [all_ofPairs, List.filter_append, List.map_append]

theorem Source.all_ofPairs_under (name other : String) (values : List String) :
    (ofPairs (Pairs.under name values)).all other = if name = other then values else [] := by
  rw [all_ofPairs, Pairs.under, List.filter_map, List.map_map]
  split
  next same => simp [same, Function.comp_def]
  next different => simp [different, Function.comp_def]

theorem ne_of_accepted {accept : Char → Bool} {c sign : Char} (accepted : accept c = true)
    (refused : accept sign = false) : c ≠ sign := by
  intro same
  simp [same, refused] at accepted

/-- An alphabet without the three signs that have a meaning of their own. -/
theorem isPlain_of_accepted {accept : Char → Bool} {c : Char} (accepted : accept c = true)
    (ampersand : accept '&' = false) (percent : accept '%' = false) (plus : accept '+' = false) :
    IsPlain c :=
  ⟨ne_of_accepted accepted ampersand, ne_of_accepted accepted percent,
    ne_of_accepted accepted plus⟩

end Query

open Query

theorem Criterion.WellFormed.text_plain {criterion : Criterion} (formed : criterion.WellFormed) :
    ∀ c ∈ criterion.text.toList, IsPlain c := by
  obtain ⟨property, rule, value⟩ := criterion
  have property_plain : ∀ c ∈ property.toList, IsPlain c := fun c member =>
    isPlain_of_accepted (formed.property_chars c member) rfl rfl rfl
  have colon_plain : IsPlain ':' := ⟨by decide, by decide, by decide⟩
  have token_plain : ∀ c ∈ rule.token.toList, IsPlain c := fun c member =>
    isPlain_of_accepted (rule.token_chars c member) rfl rfl rfl
  rcases formed.value_fits with ⟨_, absent⟩ | ⟨_, text, present, _, chars⟩
  · cases absent
    rw [text_nullary]
    intro c member
    simp only [List.mem_append, List.mem_cons] at member
    rcases member with inProperty | rfl | inToken
    · exact property_plain c inProperty
    · exact colon_plain
    · exact token_plain c inToken
  · cases present
    rw [text_binary]
    intro c member
    simp only [List.mem_append, List.mem_cons] at member
    rcases member with inProperty | rfl | inToken | rfl | inValue
    · exact property_plain c inProperty
    · exact colon_plain
    · exact token_plain c inToken
    · exact colon_plain
    · exact isPlain_of_accepted (chars c inValue) rfl rfl rfl

theorem SortKey.WellFormed.text_plain {key : SortKey} (formed : key.WellFormed) :
    ∀ c ∈ key.text.toList, IsPlain c := by
  obtain ⟨property, direction⟩ := key
  rw [text_toList]
  intro c member
  simp only [List.mem_append, List.mem_cons] at member
  rcases member with inProperty | rfl | inToken
  · exact isPlain_of_accepted (formed.property_chars c inProperty) rfl rfl rfl
  · exact ⟨by decide, by decide, by decide⟩
  · exact isPlain_of_accepted (direction.token_chars c inToken) rfl rfl rfl

theorem toString_plain (n : Nat) : ∀ c ∈ (toString n).toList, IsPlain c := fun c member =>
  isPlain_of_accepted (Text.isDigit_of_mem_toString n c member) rfl rfl rfl

/-! ## The query of accepted directives -/

namespace Request

/-- The sort directive, unless the request leaves the order to the policy. -/
def sortTexts (raw : Option String) (sort : Option SortKey) : List String :=
  if raw = none ∨ raw = some "" then [] else sort.toList.map SortKey.text

/-- The limit, unless the request leaves it to the policy. -/
def limitTexts (raw : Option String) (limit : UInt64) : List String :=
  if raw.bind Text.leadingInt? = none then [] else [toString limit.toNat]

theorem sortTexts_plain (policy : SortPolicy) (raw : Option String) (sort : Option SortKey)
    (accepted : (readSort policy raw).result = .ok sort) :
    ∀ text ∈ sortTexts raw sort, ∀ c ∈ text.toList, IsPlain c := by
  intro text listed
  unfold sortTexts at listed
  split at listed
  next => cases listed
  next present =>
    rcases (readSort_eq_ok_iff _ _ _).mp accepted with ⟨key, _, rfl, admitted⟩ | ⟨absent, _⟩
    · rw [List.mem_singleton.mp listed]
      exact admitted.formed.text_plain
    · exact absurd absent present

theorem limitTexts_plain (raw : Option String) (limit : UInt64) :
    ∀ text ∈ limitTexts raw limit, ∀ c ∈ text.toList, IsPlain c := by
  intro text listed
  unfold limitTexts at listed
  split at listed
  next => cases listed
  next =>
    rw [List.mem_singleton.mp listed]
    exact toString_plain _

theorem readSort_sortTexts (policy : SortPolicy) (raw : Option String) (sort : Option SortKey)
    (accepted : (readSort policy raw).result = .ok sort) :
    (readSort policy (sortTexts raw sort).head?).result = .ok sort := by
  unfold sortTexts
  split
  next absent =>
    rw [readSort_absent policy raw absent] at accepted
    exact accepted
  next present =>
    rw [readSort_eq_ok_iff] at accepted ⊢
    rcases accepted with ⟨key, _, rfl, admitted⟩ | ⟨absent, _⟩
    · exact .inl ⟨key, rfl, rfl, admitted⟩
    · exact absurd absent present

theorem LimitTaken.limitTexts {policy : LimitPolicy} {raw : Option String} {limit : UInt64}
    (taken : LimitTaken policy raw limit) :
    LimitTaken policy (Request.limitTexts raw limit).head? limit := by
  unfold Request.limitTexts
  cases taken with
  | number value read minimum maximum same =>
    have bound : (limit.toNat : Int) ≤ Int64.maxValue.toInt := by
      rw [same]
      exact value.toInt_le
    have reread : Text.leadingInt? (toString limit.toNat) = some value := by
      rw [Text.leadingInt?_toString limit.toNat bound, same, Int64.ofInt_toInt]
    rw [if_neg (by simp [read])]
    exact .number value reread minimum maximum same
  | fallback unread present =>
    rw [if_pos unread]
    exact .fallback rfl present

end Request

open Request

namespace Directives

def canonicalPairs (directives : Directives) (source : Source) (names : ParameterNames) : Pairs :=
  Pairs.under "filters" (directives.filters.map Criterion.text) ++
    Pairs.under "sort" (sortTexts (source.first names.sort) directives.sort) ++
    Pairs.under "page" [toString directives.window.page.toNat] ++
    Pairs.under "limit" (limitTexts (source.first names.limit) directives.window.limit)

/-- Parameters joined by ampersands, each a name, an equals sign and a value. -/
def canonicalQuery (directives : Directives) (source : Source) (names : ParameterNames) : String :=
  (directives.canonicalPairs source names).plainText

/-- What is found under the names that parameters have by default. -/
theorem lookup_canonicalPairs (directives : Directives) (source : Source)
    (names : ParameterNames) :
    let reread := Source.ofPairs (directives.canonicalPairs source names)
    reread.all "filters" = directives.filters.map Criterion.text ∧
      reread.first "sort" = (sortTexts (source.first names.sort) directives.sort).head? ∧
      reread.first "page" = some (toString directives.window.page.toNat) ∧
      reread.first "limit" =
        (limitTexts (source.first names.limit) directives.window.limit).head? := by
  intro reread
  have found (name : String) : reread.all name =
      (if "filters" = name then directives.filters.map Criterion.text else []) ++
        (if "sort" = name then sortTexts (source.first names.sort) directives.sort else []) ++
        (if "page" = name then [toString directives.window.page.toNat] else []) ++
        (if "limit" = name then limitTexts (source.first names.limit) directives.window.limit
          else []) := by
    simp only [reread, canonicalPairs, Source.all_ofPairs_append, Source.all_ofPairs_under]
  refine ⟨?_, ?_, ?_, ?_⟩
  · simp [found]
  · simp [Source.first_eq_head? reread, found]
  · simp [Source.first_eq_head? reread, found]
  · simp [Source.first_eq_head? reread, found]

theorem canonicalPairs_names (directives : Directives) (source : Source) (names : ParameterNames) :
    ∀ pair ∈ directives.canonicalPairs source names,
      ∀ c ∈ pair.1.toList, IsPlain c ∧ c ≠ '=' ∧ c ≠ '?' := by
  have letters : ∀ name ∈ ["filters", "sort", "page", "limit"],
      name.toList.all Char.isLower = true := by decide
  intro pair member c inName
  have lower : c.isLower = true := by
    refine List.all_eq_true.mp (letters pair.1 ?_) c inName
    simp only [canonicalPairs, List.mem_append] at member
    rcases member with ((member | member) | member) | member
    all_goals
      obtain ⟨same, _⟩ := Pairs.mem_under member
      simp [same]
  exact ⟨isPlain_of_accepted lower rfl rfl rfl, ne_of_accepted lower rfl, ne_of_accepted lower rfl⟩

theorem canonicalPairs_values (directives : Directives) (source : Source) (policy : Policy)
    (names : ParameterNames) (accepted : (ofSource source policy names).result = .ok directives) :
    ∀ pair ∈ directives.canonicalPairs source names, ∀ c ∈ pair.2.toList, IsPlain c := by
  obtain ⟨filtersRead, sortRead, _⟩ := (ofSource_eq_ok_iff _ _ _ _).mp accepted
  obtain ⟨_, admitted⟩ := (readFilters_eq_ok_iff _ _ _).mp filtersRead
  intro pair member
  simp only [canonicalPairs, List.mem_append] at member
  rcases member with ((member | member) | member) | member
  · obtain ⟨_, listed⟩ := Pairs.mem_under member
    obtain ⟨criterion, inside, spelled⟩ := List.mem_map.mp listed
    rw [← spelled]
    exact (admitted criterion inside).formed.text_plain
  · obtain ⟨_, listed⟩ := Pairs.mem_under member
    exact sortTexts_plain policy.sort _ _ sortRead _ listed
  · obtain ⟨_, listed⟩ := Pairs.mem_under member
    rw [List.mem_singleton.mp listed]
    exact toString_plain _
  · obtain ⟨_, listed⟩ := Pairs.mem_under member
    exact limitTexts_plain _ _ _ listed

/-- Reading accepts every canonical query of what it accepted, with the same outcome. -/
theorem ofSource_canonicalPairs (directives : Directives) (source : Source) (policy : Policy)
    (names : ParameterNames) (accepted : (ofSource source policy names).result = .ok directives) :
    (ofSource (.ofPairs (directives.canonicalPairs source names)) policy {}).result =
      .ok directives := by
  obtain ⟨filtersRead, sortRead, windowRead⟩ := (ofSource_eq_ok_iff _ _ _ _).mp accepted
  obtain ⟨_, admitted⟩ := (readFilters_eq_ok_iff _ _ _).mp filtersRead
  obtain ⟨consistent, pageEq, taken⟩ := (readWindow_eq_ok_iff _ _ _ _).mp windowRead
  obtain ⟨filters, sort, page, limit⟩ := lookup_canonicalPairs directives source names
  rw [ofSource_eq_ok_iff, filters, sort, page, limit]
  refine ⟨?_, ?_, ?_⟩
  · rw [readFilters_eq_ok_iff]
    have kept : (directives.filters.map Criterion.text).filter (· ≠ "") =
        directives.filters.map Criterion.text := by
      rw [List.filter_eq_self]
      intro text listed
      obtain ⟨criterion, _, rfl⟩ := List.mem_map.mp listed
      exact decide_eq_true criterion.text_nonempty
    exact ⟨kept.symm, admitted⟩
  · exact readSort_sortTexts _ _ _ sortRead
  · rw [readWindow_eq_ok_iff]
    have page_positive := readPage_positive (source.first names.page)
    have page_le := readPage_le (source.first names.page)
    rw [← pageEq] at page_positive page_le
    exact ⟨consistent, (readPage_toString _ page_positive page_le).symm, taken.limitTexts⟩

/--
The canonical query of accepted directives needs no escapes, so that it is read back pair by pair,
and under the names that parameters have by default it gives the same directives again.
-/
theorem ofSource_canonicalQuery (source : Source) (policy : Policy) (names : ParameterNames)
    (directives : Directives) (accepted : (ofSource source policy names).result = .ok directives) :
    Pairs.parse (directives.canonicalQuery source names) = directives.canonicalPairs source names ∧
      (ofSource (.ofPairs (Pairs.parse (directives.canonicalQuery source names)))
        policy {}).result = .ok directives := by
  have reread : Pairs.parse (directives.canonicalQuery source names) =
      directives.canonicalPairs source names :=
    Pairs.parse_plain _ (canonicalPairs_names directives source names)
      (canonicalPairs_values directives source policy names accepted)
  refine ⟨reread, ?_⟩
  rw [reread]
  exact ofSource_canonicalPairs directives source policy names accepted

/-- A request in the spelling of another endpoint, whose limit is left to the policy. -/
theorem ofSource_canonicalQuery_default_limit :
    let source : Source := fun name =>
      if name = "where" then some (.multiple ["", "role:in:a|b,c", "owner_id:isnull"])
      else if name = "by" then some (.multiple ["rank:desc", "rank"])
      else if name = "p" then some (.single "+12th") else none
    let policy : Policy := { limit := ⟨none, some 5, some 20⟩ }
    let names : ParameterNames := ⟨"where", "by", "p", "n"⟩
    let directives : Directives := {
      filters := [⟨"role", .isIn, some "a|b,c"⟩, ⟨"owner_id", .isNull, none⟩]
      sort := some ⟨"rank", .descending⟩
      window := ⟨12, 20, 20, 220⟩ }
    let query := "filters=role:in:a|b,c&filters=owner_id:isnull&sort=rank:desc&page=12"
    (ofSource source policy names).result = .ok directives ∧
      directives.canonicalQuery source names = query ∧
      (ofSource (.ofPairs (Pairs.parse query)) policy {}).result = .ok directives := by
  intro source policy names directives query
  have accepted : (ofSource source policy names).result = .ok directives := rfl
  have written : directives.canonicalQuery source names = query := by decide
  obtain ⟨_, again⟩ := ofSource_canonicalQuery source policy names directives accepted
  rw [written] at again
  exact ⟨accepted, written, again⟩

end Directives

end ListQuery
