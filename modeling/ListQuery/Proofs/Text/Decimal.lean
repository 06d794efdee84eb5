import ListQuery.Text.Decimal
import Mathlib.Data.List.TakeWhile

/-!
# Decimal numbers: a number written out is read back

What the lenient reading makes of a text is known from its parts: blanks, a sign, digits and a rest
that no digit begins (`leadingInt?_of_parts`). A number is written as a minus, if it is negative, and
digits (`toList_toString_int`), so that it is read back, in the middle of a text as well. There is one
exception, the smallest `Int64` (`leadingInt?_written`).
-/
namespace ListQuery.Text

/-! ## The parts of a text that starts with a number -/

theorem isDigit_iff (c : Char) : c.isDigit = true ↔ 48 ≤ c.toNat ∧ c.toNat ≤ 57 := by
  simp only [Char.isDigit, Bool.and_eq_true, decide_eq_true_eq, UInt32.le_iff_toNat_le, ge_iff_le]
  rfl

theorem isBlank_of_isDigit {c : Char} (digit : c.isDigit = true) : isBlank c = false := by
  obtain ⟨low, high⟩ := (isDigit_iff c).mp digit
  simp [isBlank]
  omega

theorem takeWhile_append_of_ended {digits rest : List Char}
    (decimal : ∀ c ∈ digits, c.isDigit = true) (ended : ∀ c ∈ rest.head?, c.isDigit = false) :
    (digits ++ rest).takeWhile Char.isDigit = digits := by
  rw [List.takeWhile_append_of_pos decimal]
  cases rest with
  | nil => simp
  | cons c rest => rw [List.takeWhile_cons_of_neg (by simp [ended c rfl]), List.append_nil]

theorem dropWhile_append_of_ended {digits rest : List Char}
    (decimal : ∀ c ∈ digits, c.isDigit = true) (ended : ∀ c ∈ rest.head?, c.isDigit = false) :
    (digits ++ rest).dropWhile Char.isDigit = rest := by
  rw [List.dropWhile_append_of_pos decimal]
  cases rest with
  | nil => rfl
  | cons c rest => exact List.dropWhile_cons_of_neg (by simp [ended c rfl])

theorem trimStart_append {blanks text : List Char} (blank : ∀ c ∈ blanks, isBlank c = true)
    (solid : ∀ c ∈ text.head?, isBlank c = false) : trimStart (blanks ++ text) = text := by
  rw [trimStart, List.dropWhile_append_of_pos blank]
  cases text with
  | nil => rfl
  | cons c rest => exact List.dropWhile_cons_of_neg (by simp [solid c rfl])

theorem splitSign_cons_digit {c : Char} (digit : c.isDigit = true) (rest : List Char) :
    splitSign (c :: rest) = (false, c :: rest) := by
  unfold splitSign
  split
  next same =>
    cases same
    contradiction
  next same =>
    cases same
    contradiction
  next => rfl

theorem splitSign_append {sign digits : List Char}
    (signed : sign = [] ∨ sign = ['+'] ∨ sign = ['-']) (nonempty : digits ≠ [])
    (decimal : ∀ c ∈ digits, c.isDigit = true) (rest : List Char) :
    splitSign (sign ++ (digits ++ rest)) = (decide (sign = ['-']), digits ++ rest) := by
  obtain ⟨c, others, rfl⟩ := List.exists_cons_of_ne_nil nonempty
  rcases signed with rfl | rfl | rfl
  · exact splitSign_cons_digit (decimal c List.mem_cons_self) (others ++ rest)
  · rfl
  · rfl

theorem isBlank_head_numeral {sign digits : List Char}
    (signed : sign = [] ∨ sign = ['+'] ∨ sign = ['-']) (nonempty : digits ≠ [])
    (decimal : ∀ c ∈ digits, c.isDigit = true) (rest : List Char) :
    ∀ c ∈ (sign ++ (digits ++ rest)).head?, isBlank c = false := by
  obtain ⟨d, others, rfl⟩ := List.exists_cons_of_ne_nil nonempty
  intro c first
  rcases signed with rfl | rfl | rfl
  · cases first
    exact isBlank_of_isDigit (decimal d List.mem_cons_self)
  · cases first
    rfl
  · cases first
    rfl

/-- What is read of a text whose parts are known: its digits, unless they are worth too much. -/
theorem leadingInt?_of_parts {text : String} {blanks sign digits rest : List Char}
    (whole : text.toList = blanks ++ (sign ++ (digits ++ rest)))
    (blank : ∀ c ∈ blanks, isBlank c = true) (signed : sign = [] ∨ sign = ['+'] ∨ sign = ['-'])
    (nonempty : digits ≠ []) (decimal : ∀ c ∈ digits, c.isDigit = true)
    (ended : ∀ c ∈ rest.head?, c.isDigit = false) :
    leadingInt? text =
      if Nat.ofDigitChars 10 digits 0 ≤ Int64.maxValue.toInt then
        some (Int64.ofInt (if sign = ['-'] then -(Nat.ofDigitChars 10 digits 0 : Int)
          else Nat.ofDigitChars 10 digits 0))
      else none := by
  have trimmed := trimStart_append blank (isBlank_head_numeral signed nonempty decimal rest)
  rw [leadingInt?, whole, trimmed, splitSign_append signed nonempty decimal]
  simp only [takeWhile_append_of_ended decimal ended]
  rw [if_neg (by simpa using nonempty)]
  simp only [decide_eq_true_eq]

/-! ## Numbers in writing -/

theorem isDigit_of_mem_toString (n : Nat) : ∀ c ∈ (toString n).toList, c.isDigit = true := by
  intro c member
  rw [Nat.toString_eq_repr, Nat.toList_repr] at member
  exact Nat.isDigit_of_mem_toDigits (by decide) (by decide) member

theorem toDigits_cons (n : Nat) :
    ∃ c rest, Nat.toDigits 10 n = c :: rest ∧ c.isDigit = true := by
  obtain ⟨c, rest, cut⟩ := List.exists_cons_of_ne_nil (Nat.toDigits_ne_nil (n := n) (b := 10))
  have member : c ∈ Nat.toDigits 10 n := cut ▸ List.mem_cons_self
  exact ⟨c, rest, cut, Nat.isDigit_of_mem_toDigits (by decide) (by decide) member⟩

/-- A minus before a negative number, and the digits of its magnitude. -/
theorem toList_toString_int (value : Int) :
    (toString value).toList =
      (if value < 0 then ['-'] else []) ++ Nat.toDigits 10 value.natAbs := by
  cases value with
  | ofNat n =>
    rw [if_neg (Int.not_lt.mpr (Int.natCast_nonneg n) : ¬ Int.ofNat n < 0)]
    exact Nat.toList_repr
  | negSucc n =>
    rw [if_pos (Int.negSucc_lt_zero n)]
    change ("-" ++ (n + 1).repr).toList = '-' :: Nat.toDigits 10 (n + 1)
    rw [String.toList_append, Nat.toList_repr]
    rfl

theorem splitSign_toString_int (value : Int) :
    splitSign (toString value).toList = (decide (value < 0), Nat.toDigits 10 value.natAbs) := by
  rw [toList_toString_int]
  by_cases negative : value < 0
  · rw [if_pos negative, decide_eq_true negative]
    rfl
  · obtain ⟨c, rest, digits, digit⟩ := toDigits_cons value.natAbs
    rw [if_neg negative, decide_eq_false negative, List.nil_append, digits]
    exact splitSign_cons_digit digit rest

/-- A number is known by its sign and its digits. -/
theorem toString_int_inj {first second : Int}
    (same : (toString first).toList = (toString second).toList) : first = second := by
  have parts := congrArg splitSign same
  rw [splitSign_toString_int, splitSign_toString_int, Prod.mk.injEq, decide_eq_decide] at parts
  obtain ⟨signs, digits⟩ := parts
  have magnitudes := congrArg (Nat.ofDigitChars 10 · 0) digits
  simp only [Nat.ofDigitChars_ten_toDigits] at magnitudes
  omega

theorem toString_word_inj {first second : UInt64}
    (same : (toString first.toNat).toList = (toString second.toNat).toList) : first = second :=
  UInt64.toNat_inj.mp (Int.ofNat.inj (toString_int_inj same))

theorem not_mem_toString_int {c : Char} (noDigit : c.isDigit = false) (noMinus : c ≠ '-')
    (value : Int) : c ∉ (toString value).toList := by
  rw [toList_toString_int, List.mem_append, not_or]
  constructor
  · split
    next => simpa using noMinus
    next => exact List.not_mem_nil
  · intro member
    have digit := Nat.isDigit_of_mem_toDigits (by decide) (by decide) member
    rw [noDigit] at digit
    contradiction

/-! ## Numbers read back -/

theorem leadingInt?_toString (n : Nat) (bound : n ≤ Int64.maxValue.toInt) :
    leadingInt? (toString n) = some (Int64.ofInt n) := by
  have whole : (toString n).toList = [] ++ ([] ++ (Nat.toDigits 10 n ++ [])) := by simp
  have decimal (c : Char) (member : c ∈ Nat.toDigits 10 n) : c.isDigit = true :=
    Nat.isDigit_of_mem_toDigits (by decide) (by decide) member
  rw [leadingInt?_of_parts whole (by simp) (.inl rfl) Nat.toDigits_ne_nil decimal (by simp),
    Nat.ofDigitChars_ten_toDigits, if_pos bound]
  rfl

/-- The smallest `Int64` is the only one that is not read back: its digits are worth too much. -/
theorem leadingInt?_written {text : String} {value : Int64} {blanks rest : List Char}
    (whole : text.toList = blanks ++ ((toString value.toInt).toList ++ rest))
    (blank : ∀ c ∈ blanks, isBlank c = true) (ended : ∀ c ∈ rest.head?, c.isDigit = false) :
    leadingInt? text = if value = Int64.minValue then none else some value := by
  have decimal (c : Char) (member : c ∈ Nat.toDigits 10 value.toInt.natAbs) : c.isDigit = true :=
    Nat.isDigit_of_mem_toDigits (by decide) (by decide) member
  rw [toList_toString_int, List.append_assoc] at whole
  rw [leadingInt?_of_parts whole blank (by split <;> simp) Nat.toDigits_ne_nil decimal ended,
    Nat.ofDigitChars_ten_toDigits]
  have smallest : Int64.minValue.toInt = -9223372036854775808 := rfl
  have largest : Int64.maxValue.toInt = 9223372036854775807 := rfl
  have low := value.minValue_le_toInt
  have high := value.toInt_le
  by_cases least : value = Int64.minValue
  · rw [if_pos least, if_neg]
    rw [least]
    decide
  · have other : value.toInt ≠ Int64.minValue.toInt := fun same => least (Int64.toInt_inj.mp same)
    have worth : (if (if value.toInt < 0 then ['-'] else []) = ['-'] then
        -(value.toInt.natAbs : Int) else value.toInt.natAbs) = value.toInt := by
      by_cases negative : value.toInt < 0
      · rw [if_pos negative, if_pos rfl]
        omega
      · rw [if_neg negative, if_neg (by simp)]
        omega
    rw [if_neg least, if_pos (by omega), worth, Int64.ofInt_toInt]

end ListQuery.Text
