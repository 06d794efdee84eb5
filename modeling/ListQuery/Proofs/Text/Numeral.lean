import ListQuery.Proofs.Text.Decimal
import ListQuery.Proofs.Text.Utf8

/-!
# Numerals: the number that a text starts with

`Numeral` says what is read without saying how, and the lenient reading finds exactly that
(`leadingInt?_eq_some_iff`). The same reading in steps over octets and words, any of which could
fail, takes no step that does (`leadingIntStepwise_eq`).
-/
namespace ListQuery.Text

/--
A text starts with a number: after blanks and at most one sign come digits, as many as there are and
at least one. Without their sign they do not exceed the largest `Int64`.
-/
inductive Numeral : List Char → Int64 → Prop where
  | of (blanks sign digits rest : List Char) (value : Int64)
      (blank : ∀ c ∈ blanks, isBlank c = true)
      (signed : sign = [] ∨ sign = ['+'] ∨ sign = ['-'])
      (nonempty : digits ≠ []) (decimal : ∀ c ∈ digits, c.isDigit = true)
      (ended : ∀ c ∈ rest.head?, c.isDigit = false)
      (bounded : Nat.ofDigitChars 10 digits 0 ≤ Int64.maxValue.toInt)
      (worth : value.toInt = if sign = ['-'] then -(Nat.ofDigitChars 10 digits 0 : Int)
        else Nat.ofDigitChars 10 digits 0) :
      Numeral (blanks ++ (sign ++ (digits ++ rest))) value

/-- A sign that is taken off, and what is left of it: whether it was a minus. -/
theorem splitSign_spec (text : List Char) :
    ∃ sign, text = sign ++ (splitSign text).2 ∧ (sign = [] ∨ sign = ['+'] ∨ sign = ['-']) ∧
      ((splitSign text).1 = true ↔ sign = ['-']) := by
  unfold splitSign
  split
  next rest => exact ⟨['-'], rfl, .inr (.inr rfl), by simp⟩
  next rest => exact ⟨['+'], rfl, .inr (.inl rfl), by simp⟩
  next => exact ⟨[], rfl, .inl rfl, by simp⟩

/-- A number within the bounds of a word, as a word and back. -/
theorem toInt_signed {magnitude : Nat} (bounded : magnitude ≤ Int64.maxValue.toInt)
    (negative : Bool) :
    (Int64.ofInt (if negative then -(magnitude : Int) else magnitude)).toInt =
      if negative then -(magnitude : Int) else magnitude := by
  have largest : Int64.maxValue.toInt = 9223372036854775807 := rfl
  cases negative with
  | false =>
    change (Int64.ofInt magnitude).toInt = magnitude
    exact Int64.toInt_ofInt_of_le (by omega) (by omega)
  | true =>
    change (Int64.ofInt (-magnitude)).toInt = -magnitude
    exact Int64.toInt_ofInt_of_le (by omega) (by omega)

theorem leadingInt?_eq_some_iff (text : String) (value : Int64) :
    leadingInt? text = some value ↔ Numeral text.toList value := by
  constructor
  · intro read
    unfold leadingInt? at read
    obtain ⟨sign, cut, signed, minus⟩ := splitSign_spec (trimStart text.toList)
    generalize splitSign (trimStart text.toList) = parts at cut minus read
    obtain ⟨negative, unsigned⟩ := parts
    dsimp only at cut minus read
    split at read
    next => cases read
    next nonempty =>
      split at read
      next bounded =>
        cases read
        have whole : text.toList = text.toList.takeWhile isBlank ++ (sign ++
            (unsigned.takeWhile Char.isDigit ++ unsigned.dropWhile Char.isDigit)) := by
          rw [List.takeWhile_append_dropWhile, ← cut]
          exact List.takeWhile_append_dropWhile.symm
        rw [whole]
        refine .of _ sign _ _ _ (fun c member => List.mem_takeWhile_imp member) signed
          (by simpa using nonempty) (fun c member => List.mem_takeWhile_imp member) ?_ bounded ?_
        · intro c first
          have stopped := List.head?_dropWhile_not Char.isDigit unsigned
          rwa [Option.mem_def.mp first] at stopped
        · rw [toInt_signed bounded negative]
          simp only [minus]
      next => cases read
  · intro numeral
    generalize whole : text.toList = chars at numeral
    cases numeral with
    | of blanks sign digits rest value blank signed nonempty decimal ended bounded worth =>
      rw [leadingInt?_of_parts whole blank signed nonempty decimal ended, if_pos bounded,
        Option.some.injEq, ← Int64.toInt_inj, worth]
      simpa using toInt_signed bounded (decide (sign = ['-']))

/-! ## Reading in steps that could fail -/

/-- A text cut before an octet. None if the octet is inside a character or past the end. -/
def splitAtOctet? : Nat → List Char → Option (List Char × List Char)
  | 0, text => some ([], text)
  | _ + 1, [] => none
  | octet + 1, c :: rest =>
    if c.utf8Size ≤ octet + 1 then
      (splitAtOctet? (octet + 1 - c.utf8Size) rest).map fun parts => (c :: parts.1, parts.2)
    else none

def isDigitOctet (octet : UInt8) : Bool := 48 ≤ octet && octet ≤ 57

/-- The sign is told by the first octet, and one octet is cut off. -/
def splitSignStepwise (text : List Char) : Option (Bool × List Char) :=
  let first := (Utf8.encode text).head?
  if first = some 45 then (splitAtOctet? 1 text).map fun parts => (true, parts.2)
  else if first = some 43 then (splitAtOctet? 1 text).map fun parts => (false, parts.2)
  else some (false, text)

/-- The smallest word has no opposite. -/
def opposite? (value : Int64) : Option Int64 :=
  if value = Int64.minValue then none else some (-value)

/--
The lenient reading over octets and words, with the digits cut off at the first octet that is none.
The outer result is none if a cut falls inside a character or a word has no opposite.
-/
def leadingIntStepwise (text : String) : Option (Option Int64) :=
  (splitSignStepwise (trimStart text.toList)).bind fun signed =>
    let stop := ((Utf8.encode signed.2).takeWhile isDigitOctet).length
    if stop = 0 then some none
    else
      (splitAtOctet? stop signed.2).bind fun parts =>
        let magnitude := Nat.ofDigitChars 10 parts.1 0
        if Int64.maxValue.toInt < magnitude then some none
        else if signed.1 then (opposite? (Int64.ofInt magnitude)).map some
        else some (some (Int64.ofInt magnitude))

/-- A cut between two texts falls inside no character. -/
theorem splitAtOctet?_append (before after : List Char) :
    splitAtOctet? (Utf8.encode before).length (before ++ after) = some (before, after) := by
  induction before with
  | nil => cases after <;> rfl
  | cons c rest ih =>
    have size : (Utf8.encode (c :: rest)).length = c.utf8Size + (Utf8.encode rest).length := by
      rw [Utf8.encode, List.flatMap_cons, List.length_append, String.length_utf8EncodeChar]
      rfl
    obtain ⟨less, positive⟩ := Nat.exists_eq_add_one_of_ne_zero (Nat.ne_of_gt c.utf8Size_pos)
    rw [size, positive, Nat.add_right_comm, List.cons_append, splitAtOctet?, positive,
      if_pos (by omega), Nat.add_right_comm, Nat.add_sub_cancel_left, ih]
    rfl

theorem exists_encode_cons (c : Char) (rest : List Char) :
    ∃ octet others, octet ∈ String.utf8EncodeChar c ∧
      Utf8.encode (c :: rest) = octet :: others := by
  have size : (String.utf8EncodeChar c).length = c.utf8Size := String.length_utf8EncodeChar c
  rw [Utf8.encode, List.flatMap_cons]
  cases encoded : String.utf8EncodeChar c with
  | nil =>
    have positive := c.utf8Size_pos
    rw [encoded, List.length_nil] at size
    omega
  | cons octet others => exact ⟨octet, _, List.mem_cons_self, rfl⟩

/-- The first octet is that of an ASCII character only if the text starts with this character. -/
theorem head?_encode_ne {c d : Char} {octet : UInt8} (ascii : octet.toNat < 0x80)
    (same : octet.toNat = d.toNat) (other : c ≠ d) (rest : List Char) :
    (Utf8.encode (c :: rest)).head? ≠ some octet := by
  obtain ⟨first, others, member, encoded⟩ := exists_encode_cons c rest
  rw [encoded, List.head?_cons]
  intro equal
  cases equal
  have whole := Utf8.toNat_of_mem_utf8EncodeChar member ascii
  exact other (by rw [← Char.ofNat_toNat c, ← whole, same, Char.ofNat_toNat])

theorem splitSignStepwise_eq (text : List Char) :
    splitSignStepwise text = some (splitSign text) := by
  cases text with
  | nil => rfl
  | cons c rest =>
    by_cases minus : c = '-'
    · subst minus
      cases rest <;> rfl
    · by_cases plus : c = '+'
      · subst plus
        cases rest <;> rfl
      · rw [splitSignStepwise, if_neg (head?_encode_ne (by decide) (by decide) minus rest),
          if_neg (head?_encode_ne (by decide) (by decide) plus rest)]
        unfold splitSign
        split
        next same => exact absurd (List.cons.inj same).1 minus
        next same => exact absurd (List.cons.inj same).1 plus
        next => rfl

theorem isDigitOctet_iff (octet : UInt8) :
    isDigitOctet octet = true ↔ 48 ≤ octet.toNat ∧ octet.toNat ≤ 57 := by
  simp only [isDigitOctet, Bool.and_eq_true, decide_eq_true_eq, UInt8.le_iff_toNat_le]
  rfl

theorem utf8EncodeChar_of_ascii {c : Char} (ascii : c.toNat ≤ 0x7f) :
    String.utf8EncodeChar c = [UInt8.ofNat c.toNat] := by
  unfold String.utf8EncodeChar
  exact if_pos ascii

/-- The octets up to the first that is no digit are those of the digits. -/
theorem takeWhile_isDigitOctet (text : List Char) :
    (Utf8.encode text).takeWhile isDigitOctet = Utf8.encode (text.takeWhile Char.isDigit) := by
  induction text with
  | nil => rfl
  | cons c rest ih =>
    by_cases digit : c.isDigit = true
    · obtain ⟨low, high⟩ := (isDigit_iff c).mp digit
      have value := Utf8.toNat_octet c.toNat (by omega)
      have octetDigit := (isDigitOctet_iff (UInt8.ofNat c.toNat)).mpr (by omega)
      have encoded (others : List Char) :
          Utf8.encode (c :: others) = UInt8.ofNat c.toNat :: Utf8.encode others := by
        rw [Utf8.encode, List.flatMap_cons, utf8EncodeChar_of_ascii (by omega)]
        rfl
      rw [List.takeWhile_cons_of_pos digit, encoded, encoded,
        List.takeWhile_cons_of_pos octetDigit, ih]
    · obtain ⟨octet, others, member, encoded⟩ := exists_encode_cons c rest
      have noDigit : ¬ isDigitOctet octet = true := by
        intro octetDigit
        have range := (isDigitOctet_iff octet).mp octetDigit
        have whole := Utf8.toNat_of_mem_utf8EncodeChar member (by omega)
        exact digit ((isDigit_iff c).mpr (whole ▸ range))
      rw [encoded, List.takeWhile_cons_of_neg noDigit, List.takeWhile_cons_of_neg digit]
      rfl

theorem encode_eq_nil_iff (text : List Char) : Utf8.encode text = [] ↔ text = [] := by
  cases text with
  | nil => simp [Utf8.encode]
  | cons c rest =>
    obtain ⟨octet, others, _, encoded⟩ := exists_encode_cons c rest
    simp [encoded]

/-- A number that is no less than zero has an opposite. -/
theorem opposite?_ofInt {magnitude : Nat} (bounded : magnitude ≤ Int64.maxValue.toInt) :
    opposite? (Int64.ofInt magnitude) = some (Int64.ofInt (-magnitude)) := by
  have kept : (Int64.ofInt magnitude).toInt = magnitude := toInt_signed bounded false
  have other : Int64.ofInt magnitude ≠ Int64.minValue := by
    intro same
    have smallest : Int64.minValue.toInt = -9223372036854775808 := rfl
    rw [same] at kept
    omega
  rw [opposite?, if_neg other, Int64.ofInt_neg]

/-- No step of the reading fails, and it reads the same number. -/
theorem leadingIntStepwise_eq (text : String) :
    leadingIntStepwise text = some (leadingInt? text) := by
  rw [leadingIntStepwise, leadingInt?, splitSignStepwise_eq, Option.bind_some]
  generalize splitSign (trimStart text.toList) = parts
  obtain ⟨negative, unsigned⟩ := parts
  have cut := splitAtOctet?_append (unsigned.takeWhile Char.isDigit)
    (unsigned.dropWhile Char.isDigit)
  rw [List.takeWhile_append_dropWhile] at cut
  simp only [takeWhile_isDigitOctet, cut, Option.bind_some, List.length_eq_zero_iff,
    encode_eq_nil_iff, List.isEmpty_iff]
  split
  next => rfl
  next =>
    split
    next large => rw [if_neg (Int.not_le.mpr large)]
    next small =>
      have bounded := Int.not_lt.mp small
      rw [if_pos bounded]
      cases negative with
      | false => rfl
      | true =>
        rw [if_pos rfl, opposite?_ofInt bounded]
        rfl

end ListQuery.Text
