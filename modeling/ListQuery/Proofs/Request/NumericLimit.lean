import ListQuery.Proofs.Request.Decision

/-!
# Numeric limits: what is asked for is not replaced by the fallback

A limit that writes a number out is judged by this number (`NumberDecided`), and the fallback has no
part in it (`readWindow_fallback`). There is one exception: the digits of the smallest `Int64` are
worth more than the largest, before their minus is looked at, so that it is taken for no number and
the fallback stands in for it whatever the bounds are (`readWindow_smallest_replaced`).
-/
namespace ListQuery

/-- A number within the bounds that are set. -/
structure LimitPolicy.Admits (policy : LimitPolicy) (value : Int64) : Prop where
  reached : ∀ minimum, policy.minimum = some minimum → minimum ≤ value
  kept : ∀ maximum, policy.maximum = some maximum → value ≤ maximum

namespace Request

/-- A text that writes a number out in decimal, after blanks and with no further digit behind it. -/
inductive WritesOut (value : Int64) (text : String) : Prop where
  | of (blanks rest : List Char) (blank : ∀ c ∈ blanks, Text.isBlank c = true)
      (ended : ∀ c ∈ rest.head?, c.isDigit = false)
      (whole : text.toList = blanks ++ ((toString value.toInt).toList ++ rest))

/-- The rows of a limit that is a number: out of bounds, less than one, or the limit of the window. -/
inductive NumberDecided (policy : LimitPolicy) (page : Option String) (value : Int64) :
    Except Rejection Window → Prop where
  | belowMinimum (minimum : Int64) (set : policy.minimum = some minimum) (below : value < minimum) :
      NumberDecided policy page value (.error (.limitBelowMinimum value minimum))
  | aboveMaximum (maximum : Int64)
      (reached : ∀ minimum, policy.minimum = some minimum → minimum ≤ value)
      (set : policy.maximum = some maximum) (above : maximum < value) :
      NumberDecided policy page value (.error (.limitAboveMaximum value maximum))
  | notPositive (admits : policy.Admits value) (small : value.toInt < 1) :
      NumberDecided policy page value (.error (.limitInvalid (toString value.toInt)))
  | overflow (first limit : UInt64) (admits : policy.Admits value) (positive : 1 ≤ value.toInt)
      (same : (limit.toNat : Int) = value.toInt) (pageTaken : PageTaken page first)
      (large : UInt64.size ≤ (first.toNat - 1) * limit.toNat) :
      NumberDecided policy page value (.error (.offsetOverflow first limit))
  | window (window : Window) (admits : policy.Admits value) (positive : 1 ≤ value.toInt)
      (same : (window.limit.toNat : Int) = value.toInt) (pageTaken : PageTaken page window.page)
      (consistent : window.Consistent) : NumberDecided policy page value (.ok window)

variable {policy : LimitPolicy} {page raw : Option String} {value : Int64}

/-! ## The table of a number -/

theorem Asks.unique {other : Int64} (asks : Asks raw value) (asksOther : Asks raw other) :
    other = value := by
  rw [asks_iff] at asks asksOther
  exact Option.some.inj (asksOther.symm.trans asks)

/-- The limit that is taken is the number itself. -/
theorem LimitDecided.of_asks {limit : UInt64} (asks : Asks raw value)
    (decided : LimitDecided policy raw (.ok limit)) :
    policy.Admits value ∧ (limit.toNat : Int) = value.toInt := by
  cases decided with
  | fallback _ unread => exact absurd asks (unread value)
  | asked other _ asksOther reached kept same =>
    cases asks.unique asksOther
    exact ⟨⟨reached, kept⟩, same⟩

theorem numberDecided_of_limit {rejection : Rejection} (asks : Asks raw value)
    (decided : LimitDecided policy raw (.error rejection)) :
    NumberDecided policy page value (.error rejection) := by
  cases decided with
  | missing unread => exact absurd asks (unread value)
  | belowMinimum other minimum asksOther set below =>
    cases asks.unique asksOther
    exact .belowMinimum minimum set below
  | aboveMaximum other maximum asksOther reached set above =>
    cases asks.unique asksOther
    exact .aboveMaximum maximum reached set above
  | negative other asksOther reached kept negative =>
    cases asks.unique asksOther
    exact .notPositive ⟨reached, kept⟩ (by omega)

theorem numberDecided_of_window {outcome : Except Rejection Window} (asks : Asks raw value)
    (decided : WindowDecided policy page raw outcome) : NumberDecided policy page value outcome := by
  cases decided with
  | refused rejection decided => exact numberDecided_of_limit asks decided
  | zero decided =>
    obtain ⟨admits, same⟩ := decided.of_asks asks
    have zero : value.toInt = 0 := same.symm
    have row : NumberDecided policy page value (.error (.limitInvalid (toString value.toInt))) :=
      .notPositive admits (by omega)
    rw [zero] at row
    exact row
  | overflow first taken pageTaken decided positive large =>
    obtain ⟨admits, same⟩ := decided.of_asks asks
    exact .overflow first taken admits (by omega) same pageTaken large
  | window window pageTaken decided positive size offset =>
    obtain ⟨admits, same⟩ := decided.of_asks asks
    have first : 1 ≤ window.page.toNat := by
      rw [← (pageTaken_iff page window.page).mp pageTaken]
      exact readPage_positive page
    exact .window window admits (by omega) same pageTaken ⟨first, positive, size, offset⟩

/-! ## The fallback -/

/-- Where a number is read, the bounds are all that a policy says about it. -/
theorem readWindow_fallback (page : Option String) (asks : Asks raw value)
    (fallback : Option UInt64) :
    readWindow { policy with fallback := fallback } page raw = readWindow policy page raw := by
  have read := (asks_iff raw value).mp asks
  unfold readWindow readLimit
  rw [read]
  rfl

/-- Where no number is read, the bounds are not looked at. -/
theorem readWindow_unread (policy : LimitPolicy) (page : Option String)
    (unread : raw.bind Text.leadingInt? = none) :
    (readWindow policy page raw).result =
      match policy.fallback with
      | some limit => Window.ofPage (readPage page) limit
      | none => .error (.limitInvalid (raw.getD "")) := by
  unfold readWindow readLimit
  rw [unread]
  cases policy.fallback with
  | none => rfl
  | some limit => rfl

theorem WritesOut.leadingInt? {text : String} (written : WritesOut value text) :
    Text.leadingInt? text = if value = Int64.minValue then none else some value := by
  cases written with
  | of blanks rest blank ended whole => exact Text.leadingInt?_written whole blank ended

/--
A limit that is written out gets the row of its number, whatever the fallback is. Only the smallest
`Int64` is taken for no number: there the fallback decides, and the text is at fault without one.
-/
theorem readWindow_written (policy : LimitPolicy) (page : Option String) (value : Int64)
    (text : String) (written : WritesOut value text) :
    (value ≠ Int64.minValue →
      NumberDecided policy page value (readWindow policy page (some text)).result ∧
        ∀ fallback, readWindow { policy with fallback := fallback } page (some text) =
          readWindow policy page (some text)) ∧
    (value = Int64.minValue →
      (readWindow policy page (some text)).result =
        match policy.fallback with
        | some limit => Window.ofPage (readPage page) limit
        | none => .error (.limitInvalid text)) := by
  have read := written.leadingInt?
  constructor
  · intro other
    rw [if_neg other] at read
    have asks : Asks (some text) value := (asks_iff (some text) value).mpr read
    constructor
    · apply numberDecided_of_window asks
      exact (windowDecided_iff policy page (some text) _).mpr rfl
    · exact readWindow_fallback page asks
  · intro least
    rw [if_pos least] at read
    exact readWindow_unread policy page read

/-- The smallest number that is read as one, after an ideographic space and before a word. -/
theorem readWindow_written_next_to_smallest :
    let policy : LimitPolicy := ⟨none, some 100, some 20⟩
    let value : Int64 := -9223372036854775807
    let text := "\u3000-9223372036854775807 items"
    WritesOut value text ∧ value ≠ Int64.minValue ∧
      NumberDecided policy (some "2") value (readWindow policy (some "2") (some text)).result ∧
      ∀ fallback, readWindow { policy with fallback := fallback } (some "2") (some text) =
        readWindow policy (some "2") (some text) := by
  intro policy value text
  have written : WritesOut value text :=
    .of ['\u3000'] " items".toList (by simp; decide) (by simp) (by decide +kernel)
  have other : value ≠ Int64.minValue := by decide
  exact ⟨written, other, (readWindow_written policy (some "2") value text written).1 other⟩

/-- A minimum that is set does not keep the fallback from standing in for the smallest number. -/
theorem readWindow_smallest_replaced :
    WritesOut Int64.minValue "-9223372036854775808" ∧ Int64.minValue < 1 ∧
      (readWindow ⟨some 1, none, some 20⟩ none (some "-9223372036854775808")).result =
        .ok ⟨1, 20, 20, 0⟩ ∧
      (readWindow ⟨some 1, none, none⟩ none (some "-9223372036854775808")).result =
        .error (.limitInvalid "-9223372036854775808") := by
  have written : WritesOut Int64.minValue "-9223372036854775808" :=
    .of [] [] (by simp) (by simp) (by decide +kernel)
  exact ⟨written, by decide, rfl, rfl⟩

end Request

end ListQuery
