import ListQuery.Proofs.Text.Decimal
import ListQuery.Request.Page

/-!
# Page and limit: the window that a request asks for

`Window.ofPage_eq_ok_iff` says which window a page and a limit make, in exact arithmetic.
`readLimit_eq_ok_iff` says which limit is taken, and `readWindow_eq_ok_iff` puts the two together.
-/
namespace ListQuery

/-- The size is the limit, and the offset is what the earlier pages show, without wrapping. -/
structure Window.Consistent (window : Window) : Prop where
  page_positive : 1 ≤ window.page.toNat
  limit_positive : 1 ≤ window.limit.toNat
  size_eq : window.size = window.limit
  offset_eq : window.offset.toNat = (window.page.toNat - 1) * window.limit.toNat

theorem toNat_positive_of_ne_zero {word : UInt64} (nonzero : word ≠ 0) : 1 ≤ word.toNat := by
  have zero := mt UInt64.toNat_inj.mp nonzero
  rw [UInt64.toNat_zero] at zero
  omega

/-- Page zero counts as the first page. -/
theorem Window.ofPage_eq_ok_iff (page limit : UInt64) (window : Window) :
    Window.ofPage page limit = .ok window ↔
      window.Consistent ∧ window.limit = limit ∧ window.page = if page = 0 then 1 else page := by
  have positive : 1 ≤ (if page = 0 then 1 else page : UInt64).toNat := by
    split
    next => decide
    next nonzero => exact toNat_positive_of_ne_zero nonzero
  unfold ofPage
  dsimp only
  generalize (if page = 0 then 1 else page : UInt64) = first at positive ⊢
  constructor
  · intro made
    split at made
    next => cases made
    next nonzero =>
      split at made
      next fits =>
        cases made
        exact ⟨⟨positive, toNat_positive_of_ne_zero nonzero, rfl, UInt64.toNat_ofNat_of_lt' fits⟩,
          rfl, rfl⟩
      next => cases made
  · intro consistent
    obtain ⟨consistent, rfl, rfl⟩ := consistent
    have nonzero : window.limit ≠ 0 := by
      intro zero
      have limit_positive := consistent.limit_positive
      simp [zero] at limit_positive
    have fits := window.offset.toNat_lt_size
    rw [consistent.offset_eq] at fits
    rw [if_neg nonzero, if_pos fits, ← consistent.offset_eq, UInt64.ofNat_toNat]
    obtain ⟨windowPage, windowLimit, size, offset⟩ := window
    cases consistent.size_eq
    rfl

namespace Request

/-- A number within the bounds, or the fallback in place of no number. -/
inductive LimitTaken (policy : LimitPolicy) (raw : Option String) (limit : UInt64) : Prop where
  | number (value : Int64) (read : raw.bind Text.leadingInt? = some value)
      (minimum : ∀ bound, policy.minimum = some bound → bound ≤ value)
      (maximum : ∀ bound, policy.maximum = some bound → value ≤ bound)
      (same : (limit.toNat : Int) = value.toInt)
  | fallback (unread : raw.bind Text.leadingInt? = none) (present : policy.fallback = some limit)

theorem checkLimit_eq_ok_iff (policy : LimitPolicy) (value : Int64) :
    (checkLimit policy value).result = .ok () ↔
      (∀ bound, policy.minimum = some bound → bound ≤ value) ∧
      (∀ bound, policy.maximum = some bound → value ≤ bound) := by
  have below : policy.minimum.filter (value < ·) = none ↔
      ∀ bound, policy.minimum = some bound → bound ≤ value := by
    simp [Option.filter_eq_none_iff]
  have above : policy.maximum.filter (· < value) = none ↔
      ∀ bound, policy.maximum = some bound → value ≤ bound := by
    simp [Option.filter_eq_none_iff]
  rw [← below, ← above, checkLimit]
  split
  next minimum found => simp [found]
  next clear =>
    split
    next maximum found => simp [found]
    next unbounded => simp [clear, unbounded]

/-- A number that is not negative is the same number as an unsigned word. -/
theorem toNat_ofNat_toInt (value : Int64) (nonnegative : 0 ≤ value.toInt) :
    ((UInt64.ofNat value.toInt.toNat).toNat : Int) = value.toInt := by
  have bound := value.toInt_lt
  rw [UInt64.toNat_ofNat_of_lt' (by simp only [UInt64.size]; omega)]
  exact Int.toNat_of_nonneg nonnegative

theorem readLimit_eq_ok_iff (policy : LimitPolicy) (raw : Option String) (limit : UInt64) :
    (readLimit policy raw).result = .ok limit ↔ LimitTaken policy raw limit := by
  unfold readLimit
  split
  next _ value read =>
    rw [Log.Logged.result_bind_ok]
    constructor
    · intro accepted
      obtain ⟨_, checked, taken⟩ := accepted
      obtain ⟨minimum, maximum⟩ := (checkLimit_eq_ok_iff policy value).mp checked
      split at taken
      next => cases taken
      next nonnegative =>
        cases taken
        exact .number value read minimum maximum
          (toNat_ofNat_toInt value (Int.not_lt.mp nonnegative))
    · intro taken
      cases taken with
      | number value' read' minimum maximum same =>
        cases Option.some.inj (read.symm.trans read')
        refine ⟨(), (checkLimit_eq_ok_iff policy value).mpr ⟨minimum, maximum⟩, ?_⟩
        rw [if_neg (by omega), ← same, Int.toNat_natCast, UInt64.ofNat_toNat]
        rfl
      | fallback unread _ => simp [read] at unread
  next fallback unread present =>
    constructor
    · intro taken
      cases taken
      exact .fallback unread present
    · intro taken
      cases taken with
      | number value read _ _ _ => simp [unread] at read
      | fallback _ present' =>
        cases present.symm.trans present'
        rfl
  next unread missing =>
    constructor
    · intro taken
      cases taken
    · intro taken
      cases taken with
      | number value read _ _ _ => simp [unread] at read
      | fallback _ present => simp [missing] at present

theorem readPage_positive (raw : Option String) : 1 ≤ (readPage raw).toNat := by
  unfold readPage
  split
  next page _ =>
    split
    next positive =>
      have same := toNat_ofNat_toInt page (Int.le_of_lt positive)
      omega
    next => decide
  next => decide

theorem readPage_le (raw : Option String) :
    ((readPage raw).toNat : Int) ≤ Int64.maxValue.toInt := by
  unfold readPage
  split
  next page _ =>
    split
    next positive =>
      rw [toNat_ofNat_toInt page (Int.le_of_lt positive)]
      exact page.toInt_le
    next => decide
  next => decide

/-- A page that is written out is read as itself. -/
theorem readPage_toString (page : UInt64) (positive : 1 ≤ page.toNat)
    (bound : (page.toNat : Int) ≤ Int64.maxValue.toInt) :
    readPage (some (toString page.toNat)) = page := by
  have exact : (Int64.ofInt page.toNat).toInt = page.toNat :=
    Int64.toInt_ofInt_of_le (by omega) (Int.lt_of_le_of_lt bound (by decide))
  have counted : 0 < (Int64.ofInt page.toNat).toInt := by omega
  rw [readPage, Option.bind_some, Text.leadingInt?_toString page.toNat bound]
  simp only [if_pos counted]
  rw [exact, Int.toNat_natCast, UInt64.ofNat_toNat]

theorem readWindow_eq_ok_iff (policy : LimitPolicy) (page limit : Option String)
    (window : Window) :
    (readWindow policy page limit).result = .ok window ↔
      window.Consistent ∧ window.page = readPage page ∧ LimitTaken policy limit window.limit := by
  have nonzero : readPage page ≠ 0 := by
    intro zero
    have positive := readPage_positive page
    simp [zero] at positive
  simp only [readWindow, Log.Logged.result_bind_ok, readLimit_eq_ok_iff, Log.Logged.ofExcept,
    Window.ofPage_eq_ok_iff, if_neg nonzero]
  constructor
  · intro accepted
    obtain ⟨_, taken, consistent, rfl, pageEq⟩ := accepted
    exact ⟨consistent, pageEq, taken⟩
  · intro accepted
    obtain ⟨consistent, pageEq, taken⟩ := accepted
    exact ⟨window.limit, taken, consistent, rfl, pageEq⟩

end Request

end ListQuery
