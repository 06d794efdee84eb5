import ListQuery.Proofs.Request.Acceptance

/-!
# Reporting: what the log tells of a request

A computation reports its refusals if an event at debug level is the last one whenever it is
refused, and all other events are at trace level. This is kept from step to step
(`Logged.Reports.bind`), so that it holds of a request as of its parts. Filters and the sort
directive report every refusal; a window leaves out what is found wrong after its limit has been read
(`Rejection.Unreported`). An accepted request has one event for each directive and no other
(`Directives.ofSource_events`).
-/
namespace ListQuery

namespace Log.Logged

variable {ε α β : Type}

/-- Acceptances at trace level and, unless it is silent, the refusal after them at debug level. -/
inductive Reports (silent : ε → Prop) : Logged ε α → Prop where
  | accepted (events : List Event) (value : α) (traced : ∀ event ∈ events, event.level = .trace) :
      Reports silent ⟨events, .ok value⟩
  | refused (events : List Event) (last : Event) (error : ε)
      (traced : ∀ event ∈ events, event.level = .trace) (debug : last.level = .debug)
      (told : ¬ silent error) :
      Reports silent ⟨events ++ [last], .error error⟩
  | unreported (events : List Event) (error : ε)
      (traced : ∀ event ∈ events, event.level = .trace) (untold : silent error) :
      Reports silent ⟨events, .error error⟩

theorem Reports.pure {silent : ε → Prop} (value : α) :
    Reports silent (Pure.pure value : Logged ε α) :=
  .accepted [] value nofun

/-- What is reported before a step is at trace level, since it was not refused. -/
theorem Reports.bind {silent : ε → Prop} {first : Logged ε α} {next : α → Logged ε β}
    (reports : first.Reports silent)
    (onward : ∀ value, first.result = .ok value → (next value).Reports silent) :
    (first >>= next).Reports silent := by
  cases reports with
  | accepted events value traced =>
    rw [bind_ok]
    have joined {later : List Event} (tracedLater : ∀ event ∈ later, event.level = .trace) :
        ∀ event ∈ events ++ later, event.level = .trace := by
      intro event member
      rcases List.mem_append.mp member with before | after
      · exact traced event before
      · exact tracedLater event after
    have following := onward value rfl
    generalize next value = second at following ⊢
    cases following with
    | accepted later result tracedLater => exact .accepted _ result (joined tracedLater)
    | refused later last error tracedLater debug told =>
      rw [← List.append_assoc]
      exact .refused _ last error (joined tracedLater) debug told
    | unreported later error tracedLater untold =>
      exact .unreported _ error (joined tracedLater) untold
  | refused events last error traced debug told =>
    exact .refused events last error traced debug told
  | unreported events error traced untold => exact .unreported events error traced untold

theorem bind_of_ok {first : Logged ε α} {next : α → Logged ε β} {value : α}
    (accepted : first.result = .ok value) :
    (first >>= next).events = first.events ++ (next value).events := by
  obtain ⟨events, result⟩ := first
  cases accepted
  rfl

end Log.Logged

open Log

/--
The refusals that no event tells of: a number, or a fallback, that makes no limit, and an offset that
does not fit in a word.
-/
inductive Rejection.Unreported (policy : LimitPolicy) (raw : Option String) : Rejection → Prop where
  | number (value : Int64) (text : String) (read : raw.bind Text.leadingInt? = some value) :
      Unreported policy raw (.limitInvalid text)
  | fallback (limit : UInt64) (text : String) (present : policy.fallback = some limit) :
      Unreported policy raw (.limitInvalid text)
  | offset (page limit : UInt64) : Unreported policy raw (.offsetOverflow page limit)

namespace Request

/-! ## The parts of a request -/

section

variable {silent : Rejection → Prop}

theorem readFilter_reports (policy : FilterPolicy) (directive : String)
    (told : ∀ rejection, checkFilter policy directive = .error rejection → ¬ silent rejection) :
    (readFilter policy directive).Reports silent := by
  unfold readFilter
  split
  next criterion _ =>
    refine .accepted [_] criterion fun event member => ?_
    rw [List.mem_singleton.mp member]
    rfl
  next rejection refused => exact .refused [] _ rejection nofun rfl (told rejection refused)

theorem readFilters_reports (policy : FilterPolicy) (directives : List String)
    (told : ∀ directive rejection,
      checkFilter policy directive = .error rejection → ¬ silent rejection) :
    (readFilters policy directives).Reports silent := by
  induction directives with
  | nil => exact .pure []
  | cons directive rest ih =>
    by_cases empty : directive = ""
    · subst empty
      rw [readFilters_cons_empty]
      exact ih
    · rw [readFilters_cons policy directive rest empty]
      refine (readFilter_reports policy directive (told directive)).bind fun criterion _ => ?_
      exact ih.bind fun criteria _ => .pure (criterion :: criteria)

theorem readSort_reports (policy : SortPolicy) (raw : Option String)
    (told : ∀ directive rejection,
      checkSort policy directive = .error rejection → ¬ silent rejection) :
    (readSort policy raw).Reports silent := by
  unfold readSort
  split
  next => exact .pure policy.fallbackKey
  next directive _ =>
    split
    next key _ =>
      refine .accepted [_] (some key) fun event member => ?_
      rw [List.mem_singleton.mp member]
      rfl
    next rejection refused =>
      exact .refused [] _ rejection nofun rfl (told directive rejection refused)

end

theorem checkFilter_error_reported (policy : FilterPolicy) (limits : LimitPolicy)
    (raw : Option String) (directive : String) (rejection : Rejection)
    (refused : checkFilter policy directive = .error rejection) :
    ¬ rejection.Unreported limits raw := by
  by_cases spelled : ∃ criterion : Criterion, criterion.WellFormed ∧ criterion.text = directive
  · obtain ⟨criterion, formed, rfl⟩ := spelled
    rw [checkFilter_text policy criterion formed] at refused
    split at refused
    next =>
      split at refused
      next => cases refused
      next =>
        cases refused
        intro silent
        cases silent
    next =>
      cases refused
      intro silent
      cases silent
  · rw [checkFilter_unspelled policy directive fun c formed same => spelled ⟨c, formed, same⟩]
      at refused
    cases refused
    intro silent
    cases silent

theorem checkSort_error_reported (policy : SortPolicy) (limits : LimitPolicy)
    (raw : Option String) (directive : String) (rejection : Rejection)
    (refused : checkSort policy directive = .error rejection) :
    ¬ rejection.Unreported limits raw := by
  by_cases spelled : ∃ key : SortKey, key.WellFormed ∧ key.text = directive
  · obtain ⟨key, formed, rfl⟩ := spelled
    rw [checkSort_text policy key formed] at refused
    split at refused
    next => cases refused
    next =>
      cases refused
      intro silent
      cases silent
  · rw [checkSort_unspelled policy directive fun k formed same => spelled ⟨k, formed, same⟩]
      at refused
    cases refused
    intro silent
    cases silent

/-- A violated bound is reported, and nothing else is found wrong here. -/
theorem checkLimit_reports (policy : LimitPolicy) (raw : Option String) (limit : Int64) :
    (checkLimit policy limit).Reports (Rejection.Unreported policy raw) := by
  unfold checkLimit
  split
  next minimum _ => exact .refused [] _ _ nofun rfl nofun
  next =>
    split
    next maximum _ => exact .refused [] _ _ nofun rfl nofun
    next => exact .pure ()

/-- A number that is negative is the only refusal here without an event. -/
theorem readLimit_reports (policy : LimitPolicy) (raw : Option String) :
    (readLimit policy raw).Reports (Rejection.Unreported policy raw) := by
  unfold readLimit
  split
  next _ limit read =>
    refine (checkLimit_reports policy raw limit).bind fun _ _ => ?_
    split
    next => exact .unreported [] _ nofun (.number limit _ read)
    next => exact .pure _
  next fallback _ _ => exact .pure fallback
  next unread missing =>
    refine .refused [] _ _ nofun rfl fun untold => ?_
    cases untold with
    | number value _ read => simp [unread] at read
    | fallback limit _ present => simp [missing] at present

/-- What makes no window is never reported, be it the limit or the offset. -/
theorem ofPage_error_unreported {policy : LimitPolicy} {raw : Option String} {limit : UInt64}
    (taken : LimitTaken policy raw limit) {page : UInt64} {rejection : Rejection}
    (refused : Window.ofPage page limit = .error rejection) : rejection.Unreported policy raw := by
  unfold Window.ofPage at refused
  dsimp only at refused
  generalize (if page = 0 then 1 else page : UInt64) = first at refused
  split at refused
  next =>
    cases refused
    cases taken with
    | number value read _ _ _ => exact .number value "0" read
    | fallback _ present => exact .fallback limit "0" present
  next =>
    split at refused
    next => cases refused
    next =>
      cases refused
      exact .offset first limit

theorem readWindow_reports (policy : LimitPolicy) (page limit : Option String) :
    (readWindow policy page limit).Reports (Rejection.Unreported policy limit) := by
  unfold readWindow
  refine (readLimit_reports policy limit).bind fun taken accepted => ?_
  cases made : Window.ofPage (readPage page) taken with
  | ok window => exact .pure window
  | error rejection =>
    have limitTaken := (readLimit_eq_ok_iff policy limit taken).mp accepted
    exact .unreported [] rejection nofun (ofPage_error_unreported limitTaken made)

/-! ## The events of what is accepted -/

theorem readFilters_events (policy : FilterPolicy) (directives : List String)
    (criteria : List Criterion)
    (accepted : (readFilters policy directives).result = .ok criteria) :
    (readFilters policy directives).events = criteria.map .filterAccepted := by
  induction directives generalizing criteria with
  | nil =>
    cases accepted
    rfl
  | cons directive rest ih =>
    by_cases empty : directive = ""
    · subst empty
      rw [readFilters_cons_empty] at accepted ⊢
      exact ih criteria accepted
    · rw [readFilters_cons policy directive rest empty] at accepted ⊢
      obtain ⟨criterion, first, read⟩ := Logged.result_bind_ok.mp accepted
      obtain ⟨others, later, made⟩ := Logged.result_bind_ok.mp read
      cases made
      rw [Logged.bind_of_ok first, Logged.bind_of_ok later, ih others later, List.map_cons]
      rw [readFilter_result] at first
      simp [readFilter, first]

/-- A sort directive is reported; the fallback that stands in for none is not. -/
theorem readSort_events (policy : SortPolicy) (raw : Option String) (sort : Option SortKey)
    (accepted : (readSort policy raw).result = .ok sort) :
    ((raw = none ∨ raw = some "") ∧ (readSort policy raw).events = []) ∨
      ∃ key, raw = some key.text ∧ sort = some key ∧
        (readSort policy raw).events = [.sortAccepted key] := by
  rcases (readSort_eq_ok_iff policy raw sort).mp accepted with chosen | ⟨absent, _⟩
  · obtain ⟨key, rfl, rfl, admitted⟩ := chosen
    refine .inr ⟨key, rfl, rfl, ?_⟩
    have checked := (checkSort_eq_ok_iff policy key.text key).mpr ⟨rfl, admitted⟩
    rw [readSort_some policy key.text_nonempty, checked]
  · refine .inl ⟨absent, ?_⟩
    rcases absent with rfl | rfl
    · rfl
    · rfl

theorem checkLimit_events (policy : LimitPolicy) (limit : Int64)
    (accepted : (checkLimit policy limit).result = .ok ()) :
    (checkLimit policy limit).events = [] := by
  unfold checkLimit at accepted ⊢
  split at accepted
  next => cases accepted
  next =>
    split at accepted
    next => cases accepted
    next => rfl

theorem readLimit_events (policy : LimitPolicy) (raw : Option String) (limit : UInt64)
    (accepted : (readLimit policy raw).result = .ok limit) :
    (readLimit policy raw).events = [] := by
  unfold readLimit at accepted ⊢
  split at accepted
  next _ value _ =>
    obtain ⟨_, inBounds, taken⟩ := Logged.result_bind_ok.mp accepted
    rw [Logged.bind_of_ok inBounds, checkLimit_events policy value inBounds, List.nil_append]
    split at taken
    next => cases taken
    next nonnegative => rw [if_neg nonnegative]; rfl
  next => rfl
  next => cases accepted

/-- A window that is accepted is not reported. -/
theorem readWindow_events (policy : LimitPolicy) (page limit : Option String) (window : Window)
    (accepted : (readWindow policy page limit).result = .ok window) :
    (readWindow policy page limit).events = [] := by
  unfold readWindow at accepted ⊢
  obtain ⟨taken, read, _⟩ := Logged.result_bind_ok.mp accepted
  rw [Logged.bind_of_ok read, readLimit_events policy limit taken read]
  rfl

end Request

namespace Directives

open Request

/--
An accepted request has one event for each filter that is not empty, in their order, and then one for
the sort directive if there is one.
-/
structure Reported (source : Query.Source) (names : ParameterNames) (directives : Directives)
    (events : List Event) : Prop where
  filters : directives.filters.map Criterion.text = (source.all names.filters).filter (· ≠ "")
  events_eq :
    ((source.first names.sort = none ∨ source.first names.sort = some "") ∧
      events = directives.filters.map .filterAccepted) ∨
    ∃ key, source.first names.sort = some key.text ∧ key.text ≠ "" ∧ directives.sort = some key ∧
      events = directives.filters.map .filterAccepted ++ [.sortAccepted key]

theorem ofSource_events (source : Query.Source) (policy : Policy) (names : ParameterNames)
    (directives : Directives) (accepted : (ofSource source policy names).result = .ok directives) :
    directives.Reported source names (ofSource source policy names).events := by
  obtain ⟨filtersRead, sortRead, windowRead⟩ := (ofSource_eq_ok_iff _ _ _ _).mp accepted
  have joined : (ofSource source policy names).events =
      directives.filters.map .filterAccepted ++
        (readSort policy.sort (source.first names.sort)).events := by
    rw [ofSource, Logged.bind_of_ok filtersRead, Logged.bind_of_ok sortRead,
      Logged.bind_of_ok windowRead, readFilters_events _ _ _ filtersRead,
      readWindow_events _ _ _ _ windowRead]
    simp
  refine ⟨((readFilters_eq_ok_iff _ _ _).mp filtersRead).1, ?_⟩
  rw [joined]
  rcases readSort_events _ _ _ sortRead with ⟨absent, silent⟩ | ⟨key, given, chosen, told⟩
  · refine .inl ⟨absent, ?_⟩
    rw [silent, List.append_nil]
  · refine .inr ⟨key, given, key.text_nonempty, chosen, ?_⟩
    rw [told]

/--
A refusal is the last event and the only one at debug level, except for those refusals of a window
that are never reported: they leave the acceptances before them and nothing else. What is accepted is
reported directive by directive.
-/
theorem ofSource_reports (source : Query.Source) (policy : Policy) (names : ParameterNames) :
    (ofSource source policy names).Reports
        (Rejection.Unreported policy.limit (source.first names.limit)) ∧
      ∀ directives, (ofSource source policy names).result = .ok directives →
        directives.Reported source names (ofSource source policy names).events := by
  refine ⟨?_, ofSource_events source policy names⟩
  have filtersReport := readFilters_reports policy.filters (source.all names.filters)
    (checkFilter_error_reported policy.filters policy.limit (source.first names.limit))
  have sortReports := readSort_reports policy.sort (source.first names.sort)
    (checkSort_error_reported policy.sort policy.limit (source.first names.limit))
  unfold ofSource
  refine filtersReport.bind fun filters _ => sortReports.bind fun sort _ => ?_
  exact (readWindow_reports policy.limit _ _).bind fun window _ => .pure _

/-- A request with an empty filter between two others, and a refusal after what was accepted. -/
theorem ofSource_reports_mixed :
    let source : Query.Source := .ofPairs
      [("filters", "age:gte:18"), ("sort", "id:asc"), ("filters", ""), ("filters", "name:isnull"),
        ("limit", "3")]
    let directives : Directives := {
      filters := [⟨"age", .greaterThanOrEquals, some "18"⟩, ⟨"name", .isNull, none⟩]
      sort := some ⟨"id", .ascending⟩
      window := ⟨1, 3, 3, 0⟩ }
    ((ofSource source {} {}).result = .ok directives ∧
      directives.Reported source {} (ofSource source {} {}).events) ∧
    (ofSource source { limit := ⟨some 5, none, none⟩ } {}).Reports
      (Rejection.Unreported ⟨some 5, none, none⟩ (some "3")) := by
  intro source directives
  have accepted : (ofSource source {} {}).result = .ok directives := rfl
  exact ⟨⟨accepted, (ofSource_reports source {} {}).2 directives accepted⟩,
    (ofSource_reports source { limit := ⟨some 5, none, none⟩ } {}).1⟩

/-- A limit of zero is refused without an event. -/
theorem ofSource_refusal_unreported :
    ¬ ∀ (source : Query.Source) (policy : Policy) (names : ParameterNames) (rejection : Rejection),
      (ofSource source policy names).result = .error rejection →
        ∃ earlier last, (ofSource source policy names).events = earlier ++ [last] ∧
          (∀ event ∈ earlier, event.level ≠ .debug) ∧ last.level = .debug := by
  intro reported
  have refused : (ofSource (.ofPairs [("limit", "0")]) {} {}).result =
      .error (.limitInvalid "0") := rfl
  have silent : (ofSource (.ofPairs [("limit", "0")]) {} {}).events = [] := rfl
  obtain ⟨earlier, last, same, _⟩ := reported _ _ _ _ refused
  rw [silent] at same
  cases earlier with
  | nil => cases same
  | cons _ _ => cases same

end Directives

end ListQuery
