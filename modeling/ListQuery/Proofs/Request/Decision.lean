import ListQuery.Proofs.Request.Page
import ListQuery.Proofs.Text.Numeral

/-!
# Decision: which window or refusal a page and a limit get

The table is stated over the numbers that the two texts start with (`Text.Numeral`), in exact
arithmetic: first the limit (`LimitDecided`), then the window (`WindowDecided`). A request gets what
the table says and nothing else (`windowDecided_iff`). Put together from cuts at octets and from
words that could wrap, the reading comes to the same, and no step of it fails
(`readWindowStepwise_eq`).
-/
namespace ListQuery.Request

/-! ## The table -/

/-- A parameter is there and starts with a number. -/
def Asks (raw : Option String) (value : Int64) : Prop :=
  ∃ text, raw = some text ∧ Text.Numeral text.toList value

/-- The page that is asked for if it is positive, or the first page. -/
inductive PageTaken (raw : Option String) (page : UInt64) : Prop where
  | asked (value : Int64) (asks : Asks raw value) (positive : 0 < value.toInt)
      (same : (page.toNat : Int) = value.toInt)
  | first (none_positive : ∀ value, Asks raw value → value.toInt ≤ 0) (same : page = 1)

/-- The rows of the limit: no number, one out of bounds, a negative one, or the limit itself. -/
inductive LimitDecided (policy : LimitPolicy) (raw : Option String) :
    Except Rejection UInt64 → Prop where
  | fallback (limit : UInt64) (unread : ∀ value, ¬ Asks raw value)
      (present : policy.fallback = some limit) : LimitDecided policy raw (.ok limit)
  | missing (unread : ∀ value, ¬ Asks raw value) (absent : policy.fallback = none) :
      LimitDecided policy raw (.error (.limitInvalid (raw.getD "")))
  | belowMinimum (value minimum : Int64) (asks : Asks raw value)
      (set : policy.minimum = some minimum) (below : value < minimum) :
      LimitDecided policy raw (.error (.limitBelowMinimum value minimum))
  | aboveMaximum (value maximum : Int64) (asks : Asks raw value)
      (reached : ∀ minimum, policy.minimum = some minimum → minimum ≤ value)
      (set : policy.maximum = some maximum) (above : maximum < value) :
      LimitDecided policy raw (.error (.limitAboveMaximum value maximum))
  | negative (value : Int64) (asks : Asks raw value)
      (reached : ∀ minimum, policy.minimum = some minimum → minimum ≤ value)
      (kept : ∀ maximum, policy.maximum = some maximum → value ≤ maximum)
      (negative : value.toInt < 0) :
      LimitDecided policy raw (.error (.limitInvalid (toString value.toInt)))
  | asked (value : Int64) (limit : UInt64) (asks : Asks raw value)
      (reached : ∀ minimum, policy.minimum = some minimum → minimum ≤ value)
      (kept : ∀ maximum, policy.maximum = some maximum → value ≤ maximum)
      (same : (limit.toNat : Int) = value.toInt) : LimitDecided policy raw (.ok limit)

/-- The rows of the window: no limit, a limit of zero, an offset past the words, or the window. -/
inductive WindowDecided (policy : LimitPolicy) (page limit : Option String) :
    Except Rejection Window → Prop where
  | refused (rejection : Rejection) (decided : LimitDecided policy limit (.error rejection)) :
      WindowDecided policy page limit (.error rejection)
  | zero (decided : LimitDecided policy limit (.ok 0)) :
      WindowDecided policy page limit (.error (.limitInvalid "0"))
  | overflow (first taken : UInt64) (pageTaken : PageTaken page first)
      (decided : LimitDecided policy limit (.ok taken)) (positive : 1 ≤ taken.toNat)
      (large : UInt64.size ≤ (first.toNat - 1) * taken.toNat) :
      WindowDecided policy page limit (.error (.offsetOverflow first taken))
  | window (window : Window) (pageTaken : PageTaken page window.page)
      (decided : LimitDecided policy limit (.ok window.limit)) (positive : 1 ≤ window.limit.toNat)
      (size : window.size = window.limit)
      (offset : window.offset.toNat = (window.page.toNat - 1) * window.limit.toNat) :
      WindowDecided policy page limit (.ok window)

/-! ## The reading follows the table -/

theorem asks_iff (raw : Option String) (value : Int64) :
    Asks raw value ↔ raw.bind Text.leadingInt? = some value := by
  simp only [Asks, Option.bind_eq_some_iff, Text.leadingInt?_eq_some_iff]

theorem unread_iff (raw : Option String) :
    (∀ value, ¬ Asks raw value) ↔ raw.bind Text.leadingInt? = none := by
  simp only [asks_iff, Option.eq_none_iff_forall_ne_some, ne_eq]

theorem pageTaken_iff (raw : Option String) (page : UInt64) :
    PageTaken raw page ↔ readPage raw = page := by
  unfold readPage
  constructor
  · intro taken
    cases taken with
    | asked value asks positive same =>
      rw [(asks_iff raw value).mp asks]
      simp only [if_pos positive]
      rw [← same, Int.toNat_natCast, UInt64.ofNat_toNat]
    | first none_positive same =>
      subst same
      split
      next value read =>
        exact if_neg (Int.not_lt.mpr (none_positive value ((asks_iff raw value).mpr read)))
      next => rfl
  · intro read
    split at read
    next value found =>
      have asks := (asks_iff raw value).mpr found
      split at read
      next positive =>
        exact .asked value asks positive (read ▸ toNat_ofNat_toInt value (Int.le_of_lt positive))
      next small =>
        refine .first (fun other asksOther => ?_) read.symm
        cases found.symm.trans ((asks_iff raw other).mp asksOther)
        exact Int.not_lt.mp small
    next unread =>
      exact .first (fun other asks => absurd asks ((unread_iff raw).mpr unread other)) read.symm

theorem checkLimit_eq_error_iff (policy : LimitPolicy) (value : Int64) (rejection : Rejection) :
    (checkLimit policy value).result = .error rejection ↔
      (∃ minimum, policy.minimum = some minimum ∧ value < minimum ∧
        rejection = .limitBelowMinimum value minimum) ∨
      ((∀ minimum, policy.minimum = some minimum → minimum ≤ value) ∧
        ∃ maximum, policy.maximum = some maximum ∧ maximum < value ∧
          rejection = .limitAboveMaximum value maximum) := by
  unfold checkLimit
  split
  next minimum found =>
    obtain ⟨set, below⟩ := Option.filter_eq_some_iff.mp found
    have under : value < minimum := of_decide_eq_true below
    constructor
    · intro refused
      cases refused
      exact .inl ⟨minimum, set, under, rfl⟩
    · intro outside
      rcases outside with ⟨other, set', _, rfl⟩ | ⟨reached, _⟩
      · cases set.symm.trans set'
        rfl
      · exact absurd under (Int64.not_lt.mpr (reached minimum set))
  next clear =>
    have reached : ∀ minimum, policy.minimum = some minimum → minimum ≤ value := by
      intro minimum set
      have notBelow := Option.filter_eq_none_iff.mp clear minimum set
      exact Int64.not_lt.mp fun below => notBelow (decide_eq_true below)
    split
    next maximum found =>
      obtain ⟨set, above⟩ := Option.filter_eq_some_iff.mp found
      have past : maximum < value := of_decide_eq_true above
      constructor
      · intro refused
        cases refused
        exact .inr ⟨reached, maximum, set, past, rfl⟩
      · intro outside
        rcases outside with ⟨other, set', below, _⟩ | ⟨_, other, set', _, rfl⟩
        · exact absurd below (Int64.not_lt.mpr (reached other set'))
        · cases set.symm.trans set'
          rfl
    next clear' =>
      constructor
      · intro refused
        cases refused
      · intro outside
        rcases outside with ⟨other, set, below, _⟩ | ⟨_, other, set, above, _⟩
        · exact absurd below (Int64.not_lt.mpr (reached other set))
        · exact absurd (decide_eq_true above) (Option.filter_eq_none_iff.mp clear' other set)

theorem limitDecided_ok_iff (policy : LimitPolicy) (raw : Option String) (limit : UInt64) :
    LimitDecided policy raw (.ok limit) ↔ LimitTaken policy raw limit := by
  constructor
  · intro decided
    cases decided with
    | fallback _ unread present => exact .fallback ((unread_iff raw).mp unread) present
    | asked value _ asks reached kept same =>
      exact .number value ((asks_iff raw value).mp asks) reached kept same
  · intro taken
    cases taken with
    | number value read minimum maximum same =>
      exact .asked value limit ((asks_iff raw value).mpr read) minimum maximum same
    | fallback unread present => exact .fallback limit ((unread_iff raw).mpr unread) present

/-- A number is refused for a bound, or past the bounds for its sign. -/
theorem limitDecided_error_of_read {policy : LimitPolicy} {raw : Option String} {value : Int64}
    (read : raw.bind Text.leadingInt? = some value) (rejection : Rejection) :
    LimitDecided policy raw (.error rejection) ↔
      (checkLimit policy value).result = .error rejection ∨
      ((checkLimit policy value).result = .ok () ∧ value.toInt < 0 ∧
        rejection = .limitInvalid (toString value.toInt)) := by
  have asks := (asks_iff raw value).mpr read
  have only {other : Int64} (asksOther : Asks raw other) : other = value :=
    Option.some.inj (((asks_iff raw other).mp asksOther).symm.trans read)
  rw [checkLimit_eq_error_iff, checkLimit_eq_ok_iff]
  constructor
  · intro decided
    cases decided with
    | missing unread _ => exact absurd asks (unread value)
    | belowMinimum other minimum asksOther set below =>
      cases only asksOther
      exact .inl (.inl ⟨minimum, set, below, rfl⟩)
    | aboveMaximum other maximum asksOther reached set above =>
      cases only asksOther
      exact .inl (.inr ⟨reached, maximum, set, above, rfl⟩)
    | negative other asksOther reached kept negative =>
      cases only asksOther
      exact .inr ⟨⟨reached, kept⟩, negative, rfl⟩
  · intro refused
    rcases refused with (⟨minimum, set, below, rfl⟩ | ⟨reached, maximum, set, above, rfl⟩) |
      ⟨⟨reached, kept⟩, negative, rfl⟩
    · exact .belowMinimum value minimum asks set below
    · exact .aboveMaximum value maximum asks reached set above
    · exact .negative value asks reached kept negative

theorem limitDecided_error_of_unread {policy : LimitPolicy} {raw : Option String}
    (unread : raw.bind Text.leadingInt? = none) (rejection : Rejection) :
    LimitDecided policy raw (.error rejection) ↔
      policy.fallback = none ∧ rejection = .limitInvalid (raw.getD "") := by
  have silent := (unread_iff raw).mpr unread
  constructor
  · intro decided
    cases decided with
    | missing _ absent => exact ⟨absent, rfl⟩
    | belowMinimum other _ asks => exact absurd asks (silent other)
    | aboveMaximum other _ asks => exact absurd asks (silent other)
    | negative other asks => exact absurd asks (silent other)
  · intro missing
    obtain ⟨absent, rfl⟩ := missing
    exact .missing silent absent

theorem limitDecided_error_iff (policy : LimitPolicy) (raw : Option String)
    (rejection : Rejection) :
    LimitDecided policy raw (.error rejection) ↔
      (readLimit policy raw).result = .error rejection := by
  unfold readLimit
  split
  next _ value read =>
    rw [limitDecided_error_of_read read, Log.Logged.result_bind_error]
    refine or_congr Iff.rfl ?_
    constructor
    · intro refused
      obtain ⟨inBounds, negative, rfl⟩ := refused
      exact ⟨(), inBounds, by rw [if_pos negative]; rfl⟩
    · intro refused
      obtain ⟨_, inBounds, later⟩ := refused
      split at later
      next negative =>
        cases later
        exact ⟨inBounds, negative, rfl⟩
      next => cases later
  next fallback unread present =>
    rw [limitDecided_error_of_unread unread]
    simp [present]
  next unread absent =>
    rw [limitDecided_error_of_unread unread]
    simp [absent, eq_comm]

theorem ofPage_eq_error_iff {page : UInt64} (positive : 1 ≤ page.toNat) (limit : UInt64)
    (rejection : Rejection) :
    Window.ofPage page limit = .error rejection ↔
      (limit = 0 ∧ rejection = .limitInvalid "0") ∨
      (1 ≤ limit.toNat ∧ UInt64.size ≤ (page.toNat - 1) * limit.toNat ∧
        rejection = .offsetOverflow page limit) := by
  have nonzero : page ≠ 0 := by
    intro zero
    simp [zero] at positive
  unfold Window.ofPage
  simp only [if_neg nonzero]
  split
  next zero =>
    subst zero
    simp [eq_comm]
  next counted =>
    have limit_positive := toNat_positive_of_ne_zero counted
    split
    next fits => simp [counted, Nat.not_le.mpr fits]
    next large => simp [counted, limit_positive, Nat.not_lt.mp large, eq_comm]

/-- The outcome of a request's page and limit is the one row of the table that applies. -/
theorem windowDecided_iff (policy : LimitPolicy) (page limit : Option String)
    (outcome : Except Rejection Window) :
    WindowDecided policy page limit outcome ↔ (readWindow policy page limit).result = outcome := by
  cases outcome with
  | ok window =>
    rw [readWindow_eq_ok_iff]
    constructor
    · intro decided
      cases decided with
      | window _ pageTaken taken positive size offset =>
        have first := (pageTaken_iff page window.page).mp pageTaken
        exact ⟨⟨first ▸ readPage_positive page, positive, size, offset⟩, first.symm,
          (limitDecided_ok_iff policy limit window.limit).mp taken⟩
    · intro accepted
      obtain ⟨consistent, first, taken⟩ := accepted
      exact .window window ((pageTaken_iff page window.page).mpr first.symm)
        ((limitDecided_ok_iff policy limit window.limit).mpr taken) consistent.limit_positive
        consistent.size_eq consistent.offset_eq
  | error rejection =>
    rw [readWindow, Log.Logged.result_bind_error, ← limitDecided_error_iff]
    simp only [readLimit_eq_ok_iff, ← limitDecided_ok_iff, Log.Logged.ofExcept,
      ofPage_eq_error_iff (readPage_positive page)]
    constructor
    · intro decided
      cases decided with
      | refused _ decided => exact .inl decided
      | zero decided => exact .inr ⟨0, decided, .inl ⟨rfl, rfl⟩⟩
      | overflow first taken pageTaken decided positive large =>
        cases (pageTaken_iff page first).mp pageTaken
        exact .inr ⟨taken, decided, .inr ⟨positive, large, rfl⟩⟩
    · intro refused
      rcases refused with decided | ⟨taken, decided, ⟨rfl, rfl⟩ | ⟨positive, large, rfl⟩⟩
      · exact .refused rejection decided
      · exact .zero decided
      · exact .overflow _ taken ((pageTaken_iff page _).mpr rfl) decided positive large

/-! ## Reading in steps that could fail -/

/-- A number that is not negative as an unsigned word. -/
def word? (value : Int64) : Option UInt64 :=
  if value.toInt < 0 then none else some value.toUInt64

def minus? (a b : UInt64) : Option UInt64 :=
  if b ≤ a then some (a - b) else none

def times? (a b : UInt64) : Option UInt64 :=
  if a.toNat * b.toNat < UInt64.size then some (a * b) else none

def readNumberStepwise : Option String → Option (Option Int64)
  | none => some none
  | some text => Text.leadingIntStepwise text

def readPageStepwise (raw : Option String) : Option UInt64 :=
  (readNumberStepwise raw).map fun read => ((read.bind word?).filter (0 < ·)).getD 1

def readLimitStepwise (policy : LimitPolicy) (raw : Option String) :
    Option (Except Rejection UInt64) :=
  (readNumberStepwise raw).map fun
    | none =>
      match policy.fallback with
      | some fallback => .ok fallback
      | none => .error (.limitInvalid (raw.getD ""))
    | some limit =>
      match (checkLimit policy limit).result, word? limit with
      | .error rejection, _ => .error rejection
      | .ok _, some limit => .ok limit
      | .ok _, none => .error (.limitInvalid (toString limit.toInt))

/-- None if a page before the first one would be counted. -/
def windowStepwise (page limit : UInt64) : Option (Except Rejection Window) :=
  if limit = 0 then some (.error (.limitInvalid "0"))
  else
    let page := max page 1
    (minus? page 1).map fun earlier =>
      match times? earlier limit with
      | some offset => .ok ⟨page, limit, limit, offset⟩
      | none => .error (.offsetOverflow page limit)

/--
The window of a request over octets and words that could wrap. The outer result is none if a cut
falls inside a character, a word has no opposite or one falls below zero.
-/
def readWindowStepwise (policy : LimitPolicy) (page limit : Option String) :
    Option (Except Rejection Window) :=
  (readPageStepwise page).bind fun page =>
    (readLimitStepwise policy limit).bind fun
      | .error rejection => some (.error rejection)
      | .ok limit => windowStepwise page limit

theorem word?_eq_none {value : Int64} (negative : value.toInt < 0) : word? value = none :=
  if_pos negative

theorem word?_eq_some {value : Int64} (nonnegative : ¬ value.toInt < 0) :
    word? value = some (UInt64.ofNat value.toInt.toNat) := by
  have bits : value.toUInt64.toNat = value.toInt.toNat :=
    Int64.toNat_toUInt64_of_le (Int64.le_iff_toInt_le.mpr (Int.not_lt.mp nonnegative))
  rw [word?, if_neg nonnegative, ← bits, UInt64.ofNat_toNat]

theorem times?_eq (a b : UInt64) :
    times? a b =
      if a.toNat * b.toNat < UInt64.size then some (UInt64.ofNat (a.toNat * b.toNat))
      else none := by
  rw [times?, UInt64.ofNat_mul, UInt64.ofNat_toNat, UInt64.ofNat_toNat]

theorem max_one_eq (page : UInt64) : max page 1 = if page = 0 then 1 else page := by
  have same : max page 1 = if page ≤ 1 then 1 else page := rfl
  have zero := UInt64.toNat_inj (a := page) (b := 0)
  have one := UInt64.toNat_inj (a := page) (b := 1)
  have order := UInt64.le_iff_toNat_le (a := page) (b := 1)
  rw [UInt64.toNat_zero] at zero
  rw [UInt64.toNat_one] at one order
  grind

/-- A page that is positive has a page before it, counted from zero. -/
theorem minus?_one {page : UInt64} (positive : 1 ≤ page.toNat) :
    ∃ earlier, minus? page 1 = some earlier ∧ earlier.toNat = page.toNat - 1 := by
  have counted : (1 : UInt64) ≤ page := UInt64.le_iff_toNat_le.mpr positive
  exact ⟨page - 1, if_pos counted, UInt64.toNat_sub_of_le page 1 counted⟩

theorem readNumberStepwise_eq (raw : Option String) :
    readNumberStepwise raw = some (raw.bind Text.leadingInt?) := by
  cases raw with
  | none => rfl
  | some text => exact Text.leadingIntStepwise_eq text

theorem readPageStepwise_eq (raw : Option String) : readPageStepwise raw = some (readPage raw) := by
  rw [readPageStepwise, readNumberStepwise_eq, Option.map_some, readPage]
  cases raw.bind Text.leadingInt? with
  | none => rfl
  | some value =>
    rw [Option.bind_some]
    by_cases negative : value.toInt < 0
    · rw [word?_eq_none negative]
      simp only [if_neg (show ¬ 0 < value.toInt by omega)]
      rfl
    · have same := toNat_ofNat_toInt value (Int.not_lt.mp negative)
      have positive : 0 < UInt64.ofNat value.toInt.toNat ↔ 0 < value.toInt := by
        rw [UInt64.lt_iff_toNat_lt, UInt64.toNat_zero]
        omega
      rw [word?_eq_some negative, Option.filter_some]
      simp only [decide_eq_true_eq, positive]
      split
      next => rfl
      next => rfl

theorem readLimitStepwise_eq (policy : LimitPolicy) (raw : Option String) :
    readLimitStepwise policy raw = some (readLimit policy raw).result := by
  rw [readLimitStepwise, readNumberStepwise_eq, Option.map_some, readLimit]
  cases raw.bind Text.leadingInt? with
  | none =>
    cases policy.fallback with
    | none => rfl
    | some fallback => rfl
  | some value =>
    dsimp only
    generalize checkLimit policy value = checked
    obtain ⟨events, result⟩ := checked
    cases result with
    | error rejection => rfl
    | ok inBounds =>
      by_cases negative : value.toInt < 0
      · rw [word?_eq_none negative, if_pos negative]
        rfl
      · rw [word?_eq_some negative, if_neg negative]
        rfl

theorem windowStepwise_eq (page limit : UInt64) :
    windowStepwise page limit = some (Window.ofPage page limit) := by
  have positive : 1 ≤ (max page 1).toNat := by
    rw [max_one_eq]
    split
    next => decide
    next nonzero => exact toNat_positive_of_ne_zero nonzero
  obtain ⟨earlier, counted, before⟩ := minus?_one positive
  rw [windowStepwise, Window.ofPage, ← max_one_eq]
  split
  next => rfl
  next =>
    simp only [counted, Option.map_some, times?_eq, before]
    by_cases fits : ((max page 1).toNat - 1) * limit.toNat < UInt64.size
    · simp only [if_pos fits]
    · simp only [if_neg fits]

/-- No step of the reading fails, and it comes to the same window or refusal. -/
theorem readWindowStepwise_eq (policy : LimitPolicy) (page limit : Option String) :
    readWindowStepwise policy page limit = some (readWindow policy page limit).result := by
  rw [readWindowStepwise, readPageStepwise_eq, readLimitStepwise_eq, Option.bind_some,
    Option.bind_some, readWindow]
  obtain ⟨events, result⟩ := readLimit policy limit
  cases result with
  | error rejection => rfl
  | ok limit => exact windowStepwise_eq (readPage page) limit

/--
A page and a limit get the row of the table that applies and no other, and no step to it slices
inside a character, falls below zero or wraps.
-/
theorem readWindow_decided (policy : LimitPolicy) (page limit : Option String) :
    (∀ outcome, (readWindow policy page limit).result = outcome ↔
      WindowDecided policy page limit outcome) ∧
    readWindowStepwise policy page limit = some (readWindow policy page limit).result := by
  constructor
  · intro outcome
    exact (windowDecided_iff policy page limit outcome).symm
  · exact readWindowStepwise_eq policy page limit

/-- A limit of a hundred digits, most of them zeros, is the number it is worth. -/
example : (readWindow ⟨none, none, none⟩ (some "+3rd")
    (some (String.ofList (List.replicate 99 '0' ++ "5,".toList)))).result =
    .ok ⟨3, 5, 5, 10⟩ := by
  decide +kernel

end ListQuery.Request
