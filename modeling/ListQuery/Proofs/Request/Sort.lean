import ListQuery.Proofs.Request.Spelling
import ListQuery.Request.Sort

/-!
# The sort directive: a key of the request or the policy's fallback

A directive that is not empty is decided by its spelling and then by its property (`checkSort_text`,
`checkSort_unspelled`). Without one the fallback applies, complete or not at all
(`fallbackKey_eq_some_iff`), whatever the allow-list says. The two have no part in each other
(`readSort_grammar`).
-/
namespace ListQuery

/-- A well-formed key whose property a policy permits. -/
structure SortKey.Admitted (policy : SortPolicy) (key : SortKey) : Prop where
  formed : key.WellFormed
  property_permitted : policy.fields.entries = [] ∨ key.property ∈ policy.fields.entries

/-- A fallback without a property, with an empty one or without a direction stands for no key. -/
theorem SortPolicy.fallbackKey_eq_some_iff (policy : SortPolicy) (key : SortKey) :
    policy.fallbackKey = some key ↔
      ∃ fallback, policy.fallback = some fallback ∧ fallback.property = some key.property ∧
        key.property ≠ "" ∧ fallback.direction = some key.direction := by
  obtain ⟨property, direction⟩ := key
  rw [fallbackKey, Option.bind_eq_some_iff]
  constructor
  · intro chosen
    obtain ⟨fallback, present, resolved⟩ := chosen
    rw [SortDefault.resolve] at resolved
    split at resolved
    next named directed =>
      split at resolved
      next => cases resolved
      next nonempty =>
        cases resolved
        exact ⟨fallback, present, named, by simpa using nonempty, directed⟩
    next => cases resolved
  · intro chosen
    obtain ⟨fallback, present, named, nonempty, directed⟩ := chosen
    refine ⟨fallback, present, ?_⟩
    simp only at named nonempty directed
    rw [SortDefault.resolve, named, directed]
    simp [nonempty]

namespace Request

theorem checkSort_text (policy : SortPolicy) (key : SortKey) (formed : key.WellFormed) :
    checkSort policy key.text =
      if policy.fields.permits key.property then .ok key
      else .error (.fieldDisallowed key.property) := by
  have cut : SortKey.parts? key.text = some (key.property, key.direction.token) :=
    (SortKey.parts?_eq_some_iff _ _ _).mpr ⟨key.direction, rfl, formed, rfl⟩
  have parsed : Direction.parse key.direction.token = .ok key.direction := by
    simp [Direction.parse]
  rw [checkSort, cut]
  simp only [parsed]
  cases policy.fields.permits key.property with
  | false => rfl
  | true => rfl

theorem checkSort_unspelled (policy : SortPolicy) (directive : String)
    (unspelled : ∀ key : SortKey, key.WellFormed → key.text ≠ directive) :
    checkSort policy directive = .error (.sortSyntax directive) := by
  cases cut : SortKey.parts? directive with
  | none => rw [checkSort, cut]
  | some parts =>
    obtain ⟨property, token⟩ := parts
    obtain ⟨direction, _, formed, same⟩ := (SortKey.parts?_eq_some_iff _ _ _).mp cut
    exact absurd same (unspelled _ formed)

theorem checkSort_eq_ok_iff (policy : SortPolicy) (directive : String) (key : SortKey) :
    checkSort policy directive = .ok key ↔ key.text = directive ∧ key.Admitted policy := by
  by_cases spelled : ∃ k : SortKey, k.WellFormed ∧ k.text = directive
  · obtain ⟨k, formed, rfl⟩ := spelled
    rw [checkSort_text policy k formed]
    constructor
    · intro accepted
      split at accepted
      next permitted =>
        cases accepted
        exact ⟨rfl, formed, (AllowList.permits_iff _ _).mp permitted⟩
      next => cases accepted
    · intro spelling
      obtain ⟨same, admitted⟩ := spelling
      cases SortKey.text_injective same
      rw [if_pos ((AllowList.permits_iff _ _).mpr admitted.property_permitted)]
  · rw [checkSort_unspelled policy directive fun k formed same => spelled ⟨k, formed, same⟩]
    constructor
    · intro accepted
      cases accepted
    · intro spelling
      obtain ⟨same, admitted⟩ := spelling
      exact absurd ⟨key, admitted.formed, same⟩ spelled

theorem readSort_absent (policy : SortPolicy) (raw : Option String)
    (absent : raw = none ∨ raw = some "") :
    (readSort policy raw).result = .ok policy.fallbackKey := by
  rcases absent with rfl | rfl
  · rfl
  · rfl

/-- A directive that is not empty is checked, and the outcome is reported. -/
theorem readSort_some (policy : SortPolicy) {directive : String} (nonempty : directive ≠ "") :
    readSort policy (some directive) =
      match checkSort policy directive with
      | .ok key => ⟨[.sortAccepted key], .ok (some key)⟩
      | .error rejection => ⟨[.sortRejected directive rejection.code], .error rejection⟩ := by
  have kept : (some directive).filter (fun d => !d.isEmpty) = some directive := by
    simp [Option.filter, nonempty]
  rewrite [readSort, kept]
  rfl

theorem readSort_present (policy : SortPolicy) (directive : String) (nonempty : directive ≠ "") :
    (readSort policy (some directive)).result = (checkSort policy directive).map some := by
  rw [readSort_some policy nonempty]
  cases checkSort policy directive with
  | ok key => rfl
  | error rejection => rfl

/-- An accepted order is the key that the directive spells, or the fallback where there is none. -/
theorem readSort_eq_ok_iff (policy : SortPolicy) (raw : Option String) (sort : Option SortKey) :
    (readSort policy raw).result = .ok sort ↔
      (∃ key : SortKey, raw = some key.text ∧ sort = some key ∧ key.Admitted policy) ∨
      ((raw = none ∨ raw = some "") ∧ sort = policy.fallbackKey) := by
  by_cases absent : raw = none ∨ raw = some ""
  · rw [readSort_absent policy raw absent]
    constructor
    · intro accepted
      cases accepted
      exact .inr ⟨absent, rfl⟩
    · intro chosen
      rcases chosen with ⟨key, rfl, _⟩ | ⟨_, rfl⟩
      · simp [SortKey.text_nonempty] at absent
      · rfl
  · cases raw with
    | none => simp at absent
    | some directive =>
      have nonempty : directive ≠ "" := by simpa using absent
      rw [readSort_present policy directive nonempty]
      constructor
      · intro accepted
        cases checked : checkSort policy directive with
        | error rejection => simp [checked, Except.map] at accepted
        | ok key =>
          obtain ⟨rfl, admitted⟩ := (checkSort_eq_ok_iff _ _ _).mp checked
          simp only [checked, Except.map, Except.ok.injEq] at accepted
          exact .inl ⟨key, rfl, accepted.symm, admitted⟩
      · intro chosen
        rcases chosen with ⟨key, same, rfl, admitted⟩ | ⟨missing, _⟩
        · rw [(checkSort_eq_ok_iff _ _ _).mpr ⟨Option.some.inj same.symm, admitted⟩]
          rfl
        · exact absurd missing absent

/-- A directive that is there leaves the fallback no part in the outcome or in what is reported. -/
theorem readSort_fallback (policy : SortPolicy) {directive : String} (nonempty : directive ≠ "")
    (fallback : Option SortDefault) :
    readSort { policy with fallback := fallback } (some directive) =
      readSort policy (some directive) := by
  rw [readSort_some _ nonempty, readSort_some _ nonempty]
  rfl

/--
A directive that is not empty is read by the grammar of keys and by nothing else. The key it spells is
unique and is refused only for its property; a directive that spells no key is refused as a whole.
Where there is no directive nothing is refused, and the order is that of the fallback exactly if it
names a property and a direction, be they allowed, spelled by the grammar or neither.
-/
theorem readSort_grammar (policy : SortPolicy) :
    (∀ directive : String, directive ≠ "" →
      (∀ key : SortKey, key.WellFormed → key.text = directive →
        (∀ other : SortKey, other.WellFormed → other.text = directive → other = key) ∧
        (readSort policy (some directive)).result =
          if policy.fields.entries = [] ∨ key.property ∈ policy.fields.entries then .ok (some key)
          else .error (.fieldDisallowed key.property)) ∧
      ((∀ key : SortKey, key.WellFormed → key.text ≠ directive) →
        (readSort policy (some directive)).result = .error (.sortSyntax directive)) ∧
      ∀ fallback, readSort { policy with fallback := fallback } (some directive) =
        readSort policy (some directive)) ∧
    (∀ raw : Option String, raw = none ∨ raw = some "" →
      ∃ sort, (readSort policy raw).result = .ok sort ∧
        ∀ key : SortKey, sort = some key ↔
          ∃ fallback, policy.fallback = some fallback ∧ fallback.property = some key.property ∧
            key.property ≠ "" ∧ fallback.direction = some key.direction) := by
  constructor
  · intro directive nonempty
    refine ⟨?_, ?_, readSort_fallback policy nonempty⟩
    · intro key formed spelled
      subst spelled
      refine ⟨fun other _ same => SortKey.text_injective same, ?_⟩
      rw [readSort_present policy key.text nonempty, checkSort_text policy key formed]
      simp only [← AllowList.permits_iff]
      split
      next => rfl
      next => rfl
    · intro unspelled
      rw [readSort_present policy directive nonempty, checkSort_unspelled policy _ unspelled]
      rfl
  · intro raw absent
    exact ⟨policy.fallbackKey, readSort_absent policy raw absent, policy.fallbackKey_eq_some_iff⟩

/-- An underscore is no part of a sort directive, and a fallback may be neither spelled nor allowed. -/
theorem readSort_grammar_underscore :
    let policy : SortPolicy := ⟨⟨["id"]⟩, some ⟨some "user id", some .descending⟩⟩
    ((∀ key : SortKey, key.WellFormed → key.text ≠ "user_id:asc") ∧
      (readSort policy (some "user_id:asc")).result = .error (.sortSyntax "user_id:asc")) ∧
    ((SortKey.mk "name" .ascending).WellFormed ∧
      (readSort policy (some "name:asc")).result = .error (.fieldDisallowed "name")) ∧
    ∃ sort, (readSort policy (some "")).result = .ok sort ∧
      sort = some ⟨"user id", .descending⟩ := by
  intro policy
  obtain ⟨present, absent⟩ := readSort_grammar policy
  have unspelled : ∀ key : SortKey, key.WellFormed → key.text ≠ "user_id:asc" := by
    intro key formed spelled
    have cut := (SortKey.parts?_eq_some_iff "user_id:asc" _ _).mpr
      ⟨key.direction, rfl, formed, spelled⟩
    have none : SortKey.parts? "user_id:asc" = none := rfl
    rw [none] at cut
    cases cut
  have formed : (SortKey.mk "name" .ascending).WellFormed :=
    ⟨by decide, List.all_eq_true.mp rfl⟩
  obtain ⟨_, refused, _⟩ := present "user_id:asc" (by decide)
  obtain ⟨spelled, _, _⟩ := present "name:asc" (by decide)
  obtain ⟨_, outcome⟩ := spelled ⟨"name", .ascending⟩ formed (by decide)
  obtain ⟨sort, read, chosen⟩ := absent (some "") (.inr rfl)
  refine ⟨⟨unspelled, refused unspelled⟩, ⟨formed, outcome⟩, sort, read, ?_⟩
  exact (chosen ⟨"user id", .descending⟩).mpr ⟨_, rfl, rfl, by decide, rfl⟩

end Request

end ListQuery
