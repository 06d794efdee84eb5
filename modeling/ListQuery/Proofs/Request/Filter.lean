import ListQuery.Proofs.Request.Spelling
import ListQuery.Request.Filter

/-!
# Filter directives: what is accepted, and which fault is named

A single directive is decided by three questions in this order: does it spell a well-formed
criterion, does the policy permit the property, does it permit the rule (`checkFilter_text`,
`checkFilter_unspelled`). A list of directives is accepted exactly when every directive that is not
empty is, and then the criteria spell these directives in order (`readFilters_eq_ok_iff`).
-/
namespace ListQuery

/-- A well-formed criterion whose property and rule a policy permits. -/
structure Criterion.Admitted (policy : FilterPolicy) (criterion : Criterion) : Prop where
  formed : criterion.WellFormed
  property_permitted :
    policy.fields.entries = [] ∨ criterion.property ∈ policy.fields.entries
  rule_permitted : policy.rules.entries = [] ∨ criterion.rule ∈ policy.rules.entries

namespace Request

theorem checkFilter_text (policy : FilterPolicy) (criterion : Criterion)
    (formed : criterion.WellFormed) :
    checkFilter policy criterion.text =
      if policy.fields.permits criterion.property then
        if policy.rules.permits criterion.rule then .ok criterion
        else .error (.ruleDisallowed criterion.rule.token)
      else .error (.fieldDisallowed criterion.property) := by
  have judged : ¬ (!Criterion.binaryForm.accepts criterion.text.toList &&
      !Criterion.nullaryForm.accepts criterion.text.toList) = true := by
    have spelled := (Criterion.forms_accept criterion.text).mpr ⟨criterion, formed, rfl⟩
    rcases spelled with binary | nullary
    · simp [binary]
    · simp [nullary]
  have parsed : Rule.parse criterion.rule.token = .ok criterion.rule := by simp [Rule.parse]
  obtain ⟨rest, cut, inner⟩ := criterion.splitFirst_text formed.property_clear
  obtain ⟨property, rule, value⟩ := criterion
  have whole : (value.map String.toList).map String.ofList = value := by cases value <;> simp
  rw [checkFilter, if_neg judged, cut]
  simp only [inner, String.ofList_toList, parsed, whole, bind, Except.bind]
  cases field : policy.fields.permits property with
  | false => rfl
  | true =>
    cases policy.rules.permits rule with
    | false => rfl
    | true => rfl

theorem checkFilter_unspelled (policy : FilterPolicy) (directive : String)
    (unspelled : ∀ criterion : Criterion, criterion.WellFormed → criterion.text ≠ directive) :
    checkFilter policy directive = .error (.filterSyntax directive) := by
  have refused : ¬ (Criterion.binaryForm.accepts directive.toList = true ∨
      Criterion.nullaryForm.accepts directive.toList = true) := by
    rw [Criterion.forms_accept]
    intro spelling
    obtain ⟨criterion, formed, spelled⟩ := spelling
    exact unspelled criterion formed spelled
  simp only [not_or, Bool.not_eq_true] at refused
  rw [checkFilter, refused.1, refused.2]
  rfl

theorem checkFilter_eq_ok_iff (policy : FilterPolicy) (directive : String)
    (criterion : Criterion) :
    checkFilter policy directive = .ok criterion ↔
      criterion.text = directive ∧ criterion.Admitted policy := by
  by_cases spelled : ∃ c : Criterion, c.WellFormed ∧ c.text = directive
  · obtain ⟨c, formed, rfl⟩ := spelled
    rw [checkFilter_text policy c formed]
    constructor
    · intro accepted
      split at accepted
      next field =>
        split at accepted
        next rule =>
          cases accepted
          exact ⟨rfl, formed, (AllowList.permits_iff _ _).mp field,
            (AllowList.permits_iff _ _).mp rule⟩
        next => cases accepted
      next => cases accepted
    · intro spelling
      obtain ⟨same, admitted⟩ := spelling
      cases Criterion.text_injective admitted.formed formed same
      rw [if_pos ((AllowList.permits_iff _ _).mpr admitted.property_permitted),
        if_pos ((AllowList.permits_iff _ _).mpr admitted.rule_permitted)]
  · rw [checkFilter_unspelled policy directive fun c formed same => spelled ⟨c, formed, same⟩]
    constructor
    · intro accepted
      cases accepted
    · intro spelling
      obtain ⟨same, admitted⟩ := spelling
      exact absurd ⟨criterion, admitted.formed, same⟩ spelled

/-- The separate reading of the rule's token never finds a token unknown. -/
theorem checkFilter_ne_ruleUnknown (policy : FilterPolicy) (directive token : String) :
    checkFilter policy directive ≠ .error (.ruleUnknown token) := by
  by_cases spelled : ∃ c : Criterion, c.WellFormed ∧ c.text = directive
  · obtain ⟨c, formed, rfl⟩ := spelled
    rw [checkFilter_text policy c formed]
    split
    · split <;> simp
    · simp
  · rw [checkFilter_unspelled policy directive fun c formed same => spelled ⟨c, formed, same⟩]
    simp

theorem readFilter_result (policy : FilterPolicy) (directive : String) :
    (readFilter policy directive).result = checkFilter policy directive := by
  unfold readFilter
  split
  next accepted => rw [accepted]
  next refused => rw [refused]

theorem readFilters_cons (policy : FilterPolicy) (directive : String) (rest : List String)
    (nonempty : directive ≠ "") :
    readFilters policy (directive :: rest) =
      readFilter policy directive >>= fun criterion =>
        readFilters policy rest >>= fun criteria => pure (criterion :: criteria) := by
  rw [readFilters, if_neg (by simpa using nonempty)]

theorem readFilters_cons_empty (policy : FilterPolicy) (rest : List String) :
    readFilters policy ("" :: rest) = readFilters policy rest := by
  rw [readFilters, if_pos (by decide)]

/-- The criteria of an accepted list spell its directives one by one, empty ones left out. -/
theorem readFilters_eq_ok_iff (policy : FilterPolicy) (directives : List String)
    (criteria : List Criterion) :
    (readFilters policy directives).result = .ok criteria ↔
      criteria.map Criterion.text = directives.filter (· ≠ "") ∧
        ∀ criterion ∈ criteria, criterion.Admitted policy := by
  induction directives generalizing criteria with
  | nil =>
    cases criteria with
    | nil => simp [readFilters]
    | cons criterion criteria => simp [readFilters]
  | cons directive rest ih =>
    by_cases nonempty : directive = ""
    · subst directive
      simp [readFilters_cons_empty, ih]
    · rw [readFilters_cons policy directive rest nonempty]
      simp only [Log.Logged.result_bind_ok, readFilter_result, checkFilter_eq_ok_iff, ih]
      cases criteria with
      | nil => simp [nonempty]
      | cons criterion criteria =>
        have kept : (directive :: rest).filter (· ≠ "") = directive :: rest.filter (· ≠ "") := by
          simp [nonempty]
        rw [kept, List.map_cons, List.cons.injEq, List.forall_mem_cons]
        constructor
        · intro accepted
          obtain ⟨_, ⟨spelled, admitted⟩, _, ⟨others, allAdmitted⟩, made⟩ := accepted
          cases made
          exact ⟨⟨spelled, others⟩, admitted, allAdmitted⟩
        · intro spelling
          obtain ⟨⟨spelled, others⟩, admitted, allAdmitted⟩ := spelling
          exact ⟨criterion, ⟨spelled, admitted⟩, criteria, ⟨others, allAdmitted⟩, rfl⟩

theorem readFilters_error (policy : FilterPolicy) (directives : List String)
    (rejection : Rejection) (refused : (readFilters policy directives).result = .error rejection) :
    ∃ directive ∈ directives, checkFilter policy directive = .error rejection := by
  induction directives with
  | nil => simp [readFilters] at refused
  | cons directive rest ih =>
    by_cases nonempty : directive = ""
    · subst directive
      rw [readFilters_cons_empty] at refused
      obtain ⟨bad, member, fault⟩ := ih refused
      exact ⟨bad, List.mem_cons_of_mem _ member, fault⟩
    · rw [readFilters_cons policy directive rest nonempty, Log.Logged.result_bind_error,
        readFilter_result] at refused
      rcases refused with fault | ⟨criterion, _, later⟩
      · exact ⟨directive, List.mem_cons_self, fault⟩
      · rw [Log.Logged.result_bind_error] at later
        rcases later with refused | ⟨criteria, _, impossible⟩
        · obtain ⟨bad, member, fault⟩ := ih refused
          exact ⟨bad, List.mem_cons_of_mem _ member, fault⟩
        · cases impossible

theorem readFilters_singleton (policy : FilterPolicy) (directive : String)
    (nonempty : directive ≠ "") :
    (readFilters policy [directive]).result =
      (checkFilter policy directive).map fun criterion => [criterion] := by
  rw [readFilters_cons policy directive [] nonempty, readFilters]
  cases checked : checkFilter policy directive with
  | ok criterion => simp [readFilter, checked, Except.map]
  | error rejection => simp [readFilter, checked, Except.map]

/--
A directive that is not empty is read by the grammar of criteria and by nothing else. The criterion
it spells is unique; a property that is not permitted is named before a rule, and a directive that
spells no criterion is refused as a whole under every policy. A rule is never called unknown, and
the text of a criterion is read back exactly when that criterion is well-formed.
-/
theorem readFilters_grammar (policy : FilterPolicy) (directive : String)
    (nonempty : directive ≠ "") :
    (∀ criterion : Criterion, criterion.WellFormed → criterion.text = directive →
      (∀ other : Criterion, other.WellFormed → other.text = directive → other = criterion) ∧
      (readFilters policy [directive]).result =
        if policy.fields.entries = [] ∨ criterion.property ∈ policy.fields.entries then
          if policy.rules.entries = [] ∨ criterion.rule ∈ policy.rules.entries then .ok [criterion]
          else .error (.ruleDisallowed criterion.rule.token)
        else .error (.fieldDisallowed criterion.property)) ∧
    ((∀ criterion : Criterion, criterion.WellFormed → criterion.text ≠ directive) →
      (readFilters policy [directive]).result = .error (.filterSyntax directive)) ∧
    (∀ (directives : List String) (token : String),
      (readFilters policy directives).result ≠ .error (.ruleUnknown token)) ∧
    (∀ criterion : Criterion,
      (readFilters {} [criterion.text]).result = .ok [criterion] ↔ criterion.WellFormed) := by
  refine ⟨?_, ?_, ?_, ?_⟩
  · intro criterion formed spelled
    subst spelled
    refine ⟨fun other otherFormed same => Criterion.text_injective otherFormed formed same, ?_⟩
    rw [readFilters_singleton policy _ nonempty, checkFilter_text policy criterion formed]
    simp only [← AllowList.permits_iff]
    split
    next =>
      split
      next => rfl
      next => rfl
    next => rfl
  · intro unspelled
    rw [readFilters_singleton policy _ nonempty, checkFilter_unspelled policy _ unspelled]
    rfl
  · intro directives token refused
    obtain ⟨bad, _, fault⟩ := readFilters_error policy directives _ refused
    exact checkFilter_ne_ruleUnknown policy bad token fault
  · intro criterion
    rw [readFilters_eq_ok_iff]
    constructor
    · intro accepted
      obtain ⟨_, admitted⟩ := accepted
      exact (admitted criterion List.mem_cons_self).formed
    · intro formed
      refine ⟨by simp [criterion.text_nonempty], ?_⟩
      intro other member
      cases List.mem_singleton.mp member
      exact ⟨formed, .inl rfl, .inl rfl⟩

theorem readFilters_grammar_rule_disallowed :
    "age:gte:18" ≠ "" ∧
      (readFilters ⟨⟨["age"]⟩, ⟨[.equals, .isIn]⟩⟩ ["age:gte:18"]).result =
        .error (.ruleDisallowed "gte") := by
  have formed : (Criterion.mk "age" .greaterThanOrEquals (some "18")).WellFormed :=
    ⟨by decide, List.all_eq_true.mp rfl,
      .inr ⟨rfl, "18", rfl, by decide, List.all_eq_true.mp rfl⟩⟩
  obtain ⟨accepted, _⟩ :=
    readFilters_grammar ⟨⟨["age"]⟩, ⟨[.equals, .isIn]⟩⟩ "age:gte:18" (by decide)
  obtain ⟨_, outcome⟩ := accepted _ formed (by decide)
  exact ⟨by decide, outcome⟩

end Request

end ListQuery
