import ListQuery.Proofs.Request.Filter

/-!
# Atomicity: filters are read in order, all of them or up to the first bad one

Reading a list of filters in two parts comes to reading it whole (`readFilters_append`). Where no
directive is bad each one that is not empty leaves its criterion and its event
(`readFilters_of_good`), and a bad one ends the reading whatever follows it (`readFilters_of_bad`).
A list is good throughout or splits at its first bad directive, so that together these say what
becomes of every list (`ReadInOrder`).
-/
namespace ListQuery

open Log

/-! ## What the log shows -/

/-- What a line of the log shows of an event. -/
def Log.Event.shown (event : Event) : Level × List (String × FieldValue) :=
  (event.level, event.fields)

/-- The line for a filter that is accepted. -/
def acceptanceLine (directive : String) : Level × List (String × FieldValue) :=
  (.trace, [("message", .text "accepted filter directive"), ("criterion", .text directive)])

/-- The line for a filter that is refused. -/
def refusalLine (directive code : String) : Level × List (String × FieldValue) :=
  (.debug, [("message", .text "rejected filter directive"), ("directive", .text directive),
    ("code", .text code)])

theorem shown_filterRejected (directive code : String) :
    (Event.filterRejected directive code).shown = refusalLine directive code := rfl

theorem shown_criteria (criteria : List Criterion) :
    (criteria.map Event.filterAccepted).map Event.shown =
      (criteria.map Criterion.text).map acceptanceLine := by
  rw [List.map_map, List.map_map]
  rfl

namespace Request

variable {policy : FilterPolicy}

/-- A directive that is not empty and is refused when it is read alone. -/
def Bad (policy : FilterPolicy) (directive : String) : Prop :=
  directive ≠ "" ∧ ∃ rejection, (readFilters policy [directive]).result = .error rejection

/--
What becomes of a list of directives: without a bad one each that is not empty is accepted and has its
line in the log; otherwise the first bad one is refused as if it stood alone, after the lines of those
before it.
-/
inductive ReadInOrder (policy : FilterPolicy) (directives : List String) :
    Logged Rejection (List Criterion) → Prop where
  | accepted (events : List Event) (criteria : List Criterion)
      (good : ∀ directive ∈ directives, ¬ Bad policy directive)
      (spelled : criteria.map Criterion.text = directives.filter (· ≠ ""))
      (shown : events.map Event.shown = (directives.filter (· ≠ "")).map acceptanceLine) :
      ReadInOrder policy directives ⟨events, .ok criteria⟩
  | refused (events : List Event) (rejection : Rejection) (before after : List String)
      (bad : String) (whole : directives = before ++ bad :: after)
      (good : ∀ directive ∈ before, ¬ Bad policy directive) (nonempty : bad ≠ "")
      (alone : (readFilters policy [bad]).result = .error rejection)
      (shown : events.map Event.shown =
        (before.filter (· ≠ "")).map acceptanceLine ++ [refusalLine bad rejection.code]) :
      ReadInOrder policy directives ⟨events, .error rejection⟩

/-! ## Reading in parts -/

theorem readFilters_append (policy : FilterPolicy) (first second : List String) :
    readFilters policy (first ++ second) =
      readFilters policy first >>= fun criteria =>
        readFilters policy second >>= fun others => pure (criteria ++ others) := by
  induction first with
  | nil =>
    change readFilters policy second = readFilters policy second >>= fun others => pure others
    exact (Logged.bind_succeed _).symm
  | cons directive rest ih =>
    rw [List.cons_append]
    by_cases empty : directive = ""
    · rw [empty, readFilters_cons_empty, readFilters_cons_empty, ih]
    · rw [readFilters_cons _ _ _ empty, readFilters_cons _ _ _ empty, ih]
      simp only [bind_assoc, pure_bind, List.cons_append]

theorem readFilter_of_ok {directive : String} {criterion : Criterion}
    (accepted : checkFilter policy directive = .ok criterion) :
    readFilter policy directive = ⟨[.filterAccepted criterion], .ok criterion⟩ := by
  rw [readFilter, accepted]

theorem readFilter_of_error {directive : String} {rejection : Rejection}
    (refused : checkFilter policy directive = .error rejection) :
    readFilter policy directive =
      ⟨[.filterRejected directive rejection.code], .error rejection⟩ := by
  rw [readFilter, refused]

/-- A directive is refused alone for what its check finds. -/
theorem readFilters_singleton_error {directive : String} (nonempty : directive ≠ "")
    {rejection : Rejection} :
    (readFilters policy [directive]).result = .error rejection ↔
      checkFilter policy directive = .error rejection := by
  rw [readFilters_singleton policy directive nonempty]
  cases checkFilter policy directive with
  | ok criterion => simp [Except.map]
  | error other => simp [Except.map]

theorem checkFilter_of_not_bad {directive : String} (nonempty : directive ≠ "")
    (good : ¬ Bad policy directive) : ∃ criterion, checkFilter policy directive = .ok criterion := by
  cases checked : checkFilter policy directive with
  | ok criterion => exact ⟨criterion, rfl⟩
  | error rejection =>
    exact absurd ⟨nonempty, rejection, (readFilters_singleton_error nonempty).mpr checked⟩ good

theorem readFilters_of_good {directives : List String}
    (good : ∀ directive ∈ directives, ¬ Bad policy directive) :
    ∃ criteria : List Criterion, criteria.map Criterion.text = directives.filter (· ≠ "") ∧
      readFilters policy directives = ⟨criteria.map .filterAccepted, .ok criteria⟩ := by
  induction directives with
  | nil => exact ⟨[], rfl, rfl⟩
  | cons directive rest ih =>
    obtain ⟨head, tail⟩ := List.forall_mem_cons.mp good
    obtain ⟨criteria, spelled, read⟩ := ih tail
    by_cases empty : directive = ""
    · refine ⟨criteria, ?_, ?_⟩
      · rw [List.filter_cons_of_neg (by simp [empty]), spelled]
      · rw [empty, readFilters_cons_empty, read]
    · obtain ⟨criterion, accepted⟩ := checkFilter_of_not_bad empty head
      have text := ((checkFilter_eq_ok_iff policy directive criterion).mp accepted).1
      refine ⟨criterion :: criteria, ?_, ?_⟩
      · rw [List.filter_cons_of_pos (by simpa using empty), List.map_cons, text, spelled]
      · rw [readFilters_cons _ _ _ empty, readFilter_of_ok accepted, read]
        simp

theorem readFilters_of_bad {bad : String} (nonempty : bad ≠ "") {rejection : Rejection}
    (alone : (readFilters policy [bad]).result = .error rejection) (after : List String) :
    readFilters policy (bad :: after) =
      ⟨[.filterRejected bad rejection.code], .error rejection⟩ := by
  have refused := (readFilters_singleton_error nonempty).mp alone
  rw [readFilters_cons _ _ _ nonempty, readFilter_of_error refused, Logged.bind_error]

/-! ## Every list -/

theorem exists_first_bad {directives : List String}
    (some_bad : ¬ ∀ directive ∈ directives, ¬ Bad policy directive) :
    ∃ before bad after, directives = before ++ bad :: after ∧ Bad policy bad ∧
      ∀ directive ∈ before, ¬ Bad policy directive := by
  classical
  obtain ⟨first, found⟩ : ∃ first, directives.find? (Bad policy ·) = some first := by
    rw [← Option.isSome_iff_exists, List.find?_isSome]
    simpa using some_bad
  obtain ⟨bad, before, after, whole, good⟩ := List.find?_eq_some_iff_append.mp found
  exact ⟨before, first, after, whole, of_decide_eq_true bad, by simpa using good⟩

theorem readFilters_readInOrder (policy : FilterPolicy) (directives : List String) :
    ReadInOrder policy directives (readFilters policy directives) := by
  by_cases good : ∀ directive ∈ directives, ¬ Bad policy directive
  · obtain ⟨criteria, spelled, read⟩ := readFilters_of_good good
    rw [read]
    exact .accepted _ criteria good spelled (by rw [shown_criteria, spelled])
  · obtain ⟨before, bad, after, rfl, ⟨nonempty, rejection, alone⟩, goodBefore⟩ :=
      exists_first_bad good
    obtain ⟨criteria, spelled, read⟩ := readFilters_of_good goodBefore
    rw [readFilters_append, read, readFilters_of_bad nonempty alone after]
    simp only [Logged.bind_ok, Logged.bind_error]
    refine .refused _ rejection before after bad rfl goodBefore nonempty alone ?_
    rw [List.map_append, shown_criteria, spelled, List.map_singleton, shown_filterRejected]

/--
A list of filters is accepted whole, with a criterion and a line of the log for each directive that
is not empty, or refused for its first bad directive, whose line is the last. So two lists read one
after the other give both results, or the refusal of the first that is refused.
-/
theorem readFilters_inOrder (policy : FilterPolicy) :
    (∀ directives, ReadInOrder policy directives (readFilters policy directives)) ∧
    ∀ first second : List String,
      (readFilters policy (first ++ second)).result = do
        let criteria ← (readFilters policy first).result
        let others ← (readFilters policy second).result
        return criteria ++ others := by
  constructor
  · exact readFilters_readInOrder policy
  · intro first second
    rw [readFilters_append, Logged.result_bind]
    simp only [Logged.result_bind]
    rfl

/-- The filter after the bad one is not looked at, though its property is not permitted either. -/
example : readFilters ⟨⟨["age"]⟩, {}⟩ ["age:gte:18", "", "age:gte:18", "name:isnull", "id:eq:1"] =
    ⟨[.filterAccepted ⟨"age", .greaterThanOrEquals, some "18"⟩,
      .filterAccepted ⟨"age", .greaterThanOrEquals, some "18"⟩,
      .filterRejected "name:isnull" "DISALLOWED_FIELD"], .error (.fieldDisallowed "name")⟩ := by
  rfl

end Request

end ListQuery
