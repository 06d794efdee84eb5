import ListQuery.Json.Printer
import ListQuery.Json.Reader
import ListQuery.Proofs.Text.Decimal
import Mathlib.Tactic.SplitIfs

/-!
# JSON: what is printed is read back

A string is read back character by character (`scanString_escaped`), a number because no digit
follows it (`readNumber_toString`). With these a tree is read back from the start of any text, by
induction on the tree (`readsBack_of_printable`), and so from a whole one (`parse?_compact`).
-/
namespace ListQuery.Json

/-- The tree can be read back from its text, in which at most so many levels are nested. -/
inductive Printable : Nat → Document → Prop where
  | null (depth : Nat) : Printable depth .null
  | bool (depth : Nat) (value : Bool) : Printable depth (.bool value)
  | int (depth : Nat) (value : Int) (low : Int64.minValue.toInt ≤ value)
      (high : value < UInt64.size) : Printable depth (.int value)
  | text (depth : Nat) (value : String) : Printable depth (.text value)
  | list (depth : Nat) (items : List Document) (each : ∀ item ∈ items, Printable depth item) :
      Printable (depth + 1) (.list items)
  | table (depth : Nat) (entries : List (String × Document))
      (each : ∀ entry ∈ entries, Printable depth entry.2) : Printable (depth + 1) (.table entries)

theorem Printable.mono {depth depth' : Nat} {document : Document} (le : depth ≤ depth')
    (printable : Printable depth document) : Printable depth' document := by
  induction printable generalizing depth' with
  | null => exact .null depth'
  | bool _ value => exact .bool depth' value
  | int _ value low high => exact .int depth' value low high
  | text _ value => exact .text depth' value
  | list depth items _ ih =>
    obtain ⟨less, rfl⟩ := Nat.exists_eq_add_of_le' le
    exact .list (less + depth) items fun item member => ih item member (Nat.le_add_left _ _)
  | table depth entries _ ih =>
    obtain ⟨less, rfl⟩ := Nat.exists_eq_add_of_le' le
    exact .table (less + depth) entries fun entry member => ih entry member (Nat.le_add_left _ _)

/-! ## Strings -/

theorem hexDigits_of_lt : ∀ n < 32,
    hexDigits n = ['0', '0', Nat.digitChar (n / 16), Nat.digitChar (n % 16)] := by
  decide

theorem scanString_hex (n : Nat) (low : n < 32) (rest : List Char) :
    scanString (.hex 4 0) none (hexDigits n ++ rest) =
      (scanString .plain none rest).map (.cons (Char.ofNat n) true) := by
  have zero : Text.hexValue? '0' = some 0 := rfl
  have first := Text.hexValue?_digitChar (n / 16) (by omega)
  have second := Text.hexValue?_digitChar (n % 16) (by omega)
  have whole : n / 16 * 16 + n % 16 = n := Nat.div_add_mod' n 16
  have notHigh : isHighSurrogate n = false := by
    simp [isHighSurrogate]
    omega
  have notLow : isLowSurrogate n = false := by
    simp [isLowSurrogate]
    omega
  rw [hexDigits_of_lt n low]
  simp only [List.cons_append, List.nil_append, scanString, zero, first, second]
  simp [whole, notHigh, notLow]

/-- How a character is written: after a backslash, by its number, or as itself. -/
inductive Escape (c : Char) : List Char → Prop where
  | simple (mark : Char) (numbered : mark ≠ 'u') (meaning : simpleEscape? mark = some c) :
      Escape c ['\\', mark]
  | hex (low : c < ' ') : Escape c ('\\' :: 'u' :: hexDigits c.toNat)
  | raw (notQuote : c ≠ '"') (notBackslash : c ≠ '\\') (high : ¬ c < ' ') : Escape c [c]

theorem escape_escaped (c : Char) : Escape c (escaped c) := by
  unfold escaped
  split_ifs with quote backslash backspace tab newline feed carriage low
  · exact .simple '"' (by decide) (by rw [quote]; rfl)
  · exact .simple '\\' (by decide) (by rw [backslash]; rfl)
  · exact .simple 'b' (by decide) (by rw [backspace]; rfl)
  · exact .simple 't' (by decide) (by rw [tab]; rfl)
  · exact .simple 'n' (by decide) (by rw [newline]; rfl)
  · exact .simple 'f' (by decide) (by rw [feed]; rfl)
  · exact .simple 'r' (by decide) (by rw [carriage]; rfl)
  · exact .hex low
  · exact .raw quote backslash low

theorem scanString_escaped (c : Char) (rest : List Char) :
    scanString .plain none (escaped c ++ rest) =
      (scanString .plain none rest).map (.cons c true) := by
  have escape := escape_escaped c
  generalize escaped c = written at escape ⊢
  cases escape with
  | simple mark numbered meaning => simp [scanString, numbered, meaning]
  | hex low =>
    have step : scanString .plain none ('\\' :: 'u' :: hexDigits c.toNat ++ rest) =
        scanString (.hex 4 0) none (hexDigits c.toNat ++ rest) := rfl
    rw [step, scanString_hex c.toNat low, Char.ofNat_toNat]
  | raw notQuote notBackslash high => simp [scanString, notQuote, notBackslash, high]

theorem scanString_string (text rest : List Char) :
    scanString .plain none (text.flatMap escaped ++ '"' :: rest) = some ⟨text, true, rest⟩ := by
  induction text with
  | nil => rfl
  | cons c others ih =>
    rw [List.flatMap_cons, List.append_assoc, scanString_escaped, ih]
    rfl

/-! ## Numbers -/

/-- What can stand after a value: the next one, the end of a list or table, or nothing. -/
def Closed (rest : List Char) : Prop :=
  ∀ c ∈ rest.head?, c = ',' ∨ c = ']' ∨ c = '}'

/-- No number but zero starts with a zero. -/
theorem head?_toDigits_ne_zero {n : Nat} (positive : 0 < n) :
    (Nat.toDigits 10 n).head? ≠ some '0' := by
  induction n using Nat.strongRecOn with
  | ind n ih =>
    by_cases small : n < 10
    · have digits : ∀ digit < 10, 0 < digit → Nat.digitChar digit ≠ '0' := by decide
      rw [Nat.toDigits_of_lt_base small]
      simpa using digits n small positive
    · have earlier := ih (n / 10) (by omega) (by omega)
      obtain ⟨first, others, cut, _⟩ := Text.toDigits_cons (n / 10)
      rw [cut] at earlier
      rw [Nat.toDigits_of_base_le (by decide) (by omega), cut]
      exact earlier

theorem length_toDigits_of_head?_zero {n : Nat} (zero : (Nat.toDigits 10 n).head? = some '0') :
    (Nat.toDigits 10 n).length = 1 := by
  rcases Nat.eq_zero_or_pos n with rfl | positive
  · rfl
  · exact absurd zero (head?_toDigits_ne_zero positive)

theorem readFraction_closed {rest : List Char} (closed : Closed rest) :
    readFraction rest = some (none, rest) := by
  unfold readFraction
  split
  next =>
    have other := closed '.' rfl
    contradiction
  next => rfl

theorem readExponent_closed {rest : List Char} (closed : Closed rest) :
    readExponent rest = some (none, rest) := by
  cases rest with
  | nil => rfl
  | cons c rest =>
    have other : ¬ (c = 'e' ∨ c = 'E') := by
      rcases closed c rfl with rfl | rfl | rfl
      · decide
      · decide
      · decide
    exact if_neg other

theorem readNumber_toDigits (negative : Bool) (n : Nat) {rest : List Char} (closed : Closed rest) :
    readNumber ((if negative then ['-'] else []) ++ (Nat.toDigits 10 n ++ rest)) =
      some (number negative (Nat.toDigits 10 n) none none, rest) := by
  have decimal (c : Char) (member : c ∈ Nat.toDigits 10 n) : c.isDigit = true :=
    Nat.isDigit_of_mem_toDigits (by decide) (by decide) member
  have ended : ∀ c ∈ rest.head?, c.isDigit = false := by
    intro c first
    rcases closed c first with rfl | rfl | rfl
    · rfl
    · rfl
    · rfl
  have clear : ¬ ((Nat.toDigits 10 n).isEmpty = true ∨
      ((Nat.toDigits 10 n).head? = some '0' ∧ 1 < (Nat.toDigits 10 n).length)) := by
    intro bad
    rcases bad with empty | ⟨zero, long⟩
    · simp at empty
    · have short := length_toDigits_of_head?_zero zero
      omega
  unfold readNumber
  cases negative with
  | true =>
    simp only [if_true, List.cons_append, List.nil_append,
      Text.takeWhile_append_of_ended decimal ended, Text.dropWhile_append_of_ended decimal ended,
      if_neg clear, readFraction_closed closed, readExponent_closed closed]
  | false =>
    simp only [Bool.false_eq_true, if_false, List.nil_append]
    split
    next same =>
      obtain ⟨first, others, cut, digit⟩ := Text.toDigits_cons n
      rw [cut] at same
      cases same
      contradiction
    next =>
      simp only [Text.takeWhile_append_of_ended decimal ended,
        Text.dropWhile_append_of_ended decimal ended, if_neg clear, readFraction_closed closed,
        readExponent_closed closed]

theorem readNumber_toString (value : Int) (low : Int64.minValue.toInt ≤ value)
    (high : value < UInt64.size) {rest : List Char} (closed : Closed rest) :
    readNumber ((toString value).toList ++ rest) = some (.int value, rest) := by
  have read := readNumber_toDigits (decide (value < 0)) value.natAbs closed
  simp only [decide_eq_true_eq] at read
  rw [Text.toList_toString_int, List.append_assoc, read, number]
  simp only [Nat.ofDigitChars_ten_toDigits, decide_eq_true_eq]
  by_cases negative : value < 0
  · have opposite : -(value.natAbs : Int) = value := by omega
    have large : ¬ (value.natAbs = 0 ∨ value < Int64.minValue.toInt) := by omega
    rw [if_pos negative, opposite, if_neg large]
  · have same : (value.natAbs : Int) = value := by omega
    have fits : value.natAbs < UInt64.size := by omega
    rw [if_neg negative, if_pos fits, same]

theorem toString_cons (value : Int) :
    ∃ c rest, (toString value).toList = c :: rest ∧ (c = '-' ∨ c.isDigit = true) := by
  rw [Text.toList_toString_int]
  split
  next => exact ⟨'-', _, rfl, .inl rfl⟩
  next =>
    obtain ⟨c, rest, digits, digit⟩ := Text.toDigits_cons value.natAbs
    exact ⟨c, rest, digits, .inr digit⟩

/-! ## Trees -/

theorem skipSpace_cons {c : Char} (solid : isSpace c = false) (rest : List Char) :
    skipSpace (c :: rest) = c :: rest :=
  List.dropWhile_cons_of_neg (by simp [solid])

theorem isSpace_of_number {c : Char} (numeric : c = '-' ∨ c.isDigit = true) :
    isSpace c = false := by
  rcases numeric with rfl | digit
  · rfl
  · have code : 48 ≤ c.toNat := ((Text.isDigit_iff c).mp digit).1
    have other (space : Char) (below : space.toNat < 48) : (c == space) = false := by
      refine beq_false_of_ne ?_
      rintro rfl
      omega
    rw [isSpace, other ' ' (by decide), other '\t' (by decide), other '\n' (by decide),
      other '\r' (by decide)]
    rfl

/-- What starts like a number is read as a number. -/
theorem readValue_number {c : Char} (numeric : c = '-' ∨ c.isDigit = true) (fuel depth : Nat)
    (rest : List Char) : readValue (fuel + 1) depth (c :: rest) = readNumber (c :: rest) := by
  have distinct (d : Char) (other : d ≠ '-' ∧ d.isDigit = false) : c ≠ d := by
    rintro rfl
    rcases numeric with minus | digit
    · exact other.1 minus
    · rw [other.2] at digit
      contradiction
  rw [readValue, skipSpace_cons (isSpace_of_number numeric)]
  split
  next same => exact absurd (List.cons.inj same).1 (distinct '"' (by decide))
  next same => exact absurd (List.cons.inj same).1 (distinct '[' (by decide))
  next same => exact absurd (List.cons.inj same).1 (distinct '{' (by decide))
  next same => exact absurd (List.cons.inj same).1 (distinct 'n' (by decide))
  next same => exact absurd (List.cons.inj same).1 (distinct 't' (by decide))
  next same => exact absurd (List.cons.inj same).1 (distinct 'f' (by decide))
  next => rfl

/-- No text of a tree starts with a space or with the end of a list. -/
theorem print_cons (depth : Nat) {document : Document} (printable : Printable depth document) :
    ∃ c rest, print document = c :: rest ∧ isSpace c = false ∧ c ≠ ']' := by
  cases printable with
  | null => exact ⟨'n', ['u', 'l', 'l'], rfl, rfl, by decide⟩
  | bool _ value =>
    cases value with
    | true => exact ⟨'t', ['r', 'u', 'e'], rfl, rfl, by decide⟩
    | false => exact ⟨'f', ['a', 'l', 's', 'e'], rfl, rfl, by decide⟩
  | int _ value =>
    obtain ⟨c, rest, written, numeric⟩ := toString_cons value
    refine ⟨c, rest, written, isSpace_of_number numeric, ?_⟩
    rintro rfl
    rcases numeric with minus | digit
    · contradiction
    · contradiction
  | text _ value => exact ⟨'"', _, rfl, rfl, by decide⟩
  | list _ items => exact ⟨'[', _, rfl, rfl, by decide⟩
  | table _ entries => exact ⟨'{', _, rfl, rfl, by decide⟩

theorem printItems_cons (item next : Document) (others : List Document) :
    printItems (item :: next :: others) = print item ++ ',' :: printItems (next :: others) := rfl

theorem printEntries_cons (key : String) (value : Document) (next : String × Document)
    (others : List (String × Document)) :
    printEntries ((key, value) :: next :: others) =
      string key ++ ':' :: (print value ++ ',' :: printEntries (next :: others)) := rfl

theorem printItems_head {depth : Nat} {item : Document} (others : List Document)
    (printable : Printable depth item) :
    ∃ c rest, printItems (item :: others) = c :: rest ∧ isSpace c = false ∧ c ≠ ']' := by
  obtain ⟨c, rest, written, solid, notEnd⟩ := print_cons depth printable
  cases others with
  | nil => exact ⟨c, rest, written, solid, notEnd⟩
  | cons next others =>
    rw [printItems_cons, written]
    exact ⟨c, _, rfl, solid, notEnd⟩

theorem printEntries_head (entry : String × Document) (others : List (String × Document)) :
    ∃ rest, printEntries (entry :: others) = '"' :: rest := by
  obtain ⟨key, value⟩ := entry
  cases others with
  | nil => exact ⟨_, rfl⟩
  | cons next others => exact ⟨_, rfl⟩

/-- A tree is read from the start of a text, given enough fuel for its length. -/
def ReadsBack (depth : Nat) (document : Document) : Prop :=
  ∀ (fuel : Nat) (rest : List Char), 2 * (print document).length ≤ fuel + 1 → Closed rest →
    readValue (fuel + 1) depth (print document ++ rest) = some (document, rest)

theorem closed_comma (rest : List Char) : Closed (',' :: rest) := by
  rintro c ⟨⟩
  exact .inl rfl

theorem closed_bracket (rest : List Char) : Closed (']' :: rest) := by
  rintro c ⟨⟩
  exact .inr (.inl rfl)

theorem closed_brace (rest : List Char) : Closed ('}' :: rest) := by
  rintro c ⟨⟩
  exact .inr (.inr rfl)

theorem readItems_printItems {depth : Nat} {items : List Document} (nonempty : items ≠ [])
    (each : ∀ item ∈ items, ReadsBack depth item) (fuel : Nat) (rest : List Char)
    (enough : 2 * (printItems items).length ≤ fuel) :
    readItems (fuel + 2) depth (printItems items ++ ']' :: rest) = some (items, rest) := by
  induction items generalizing fuel with
  | nil => contradiction
  | cons item others ih =>
    have read := each item List.mem_cons_self fuel
    cases others with
    | nil =>
      rw [printItems] at enough ⊢
      rw [readItems, read _ (by omega) (closed_bracket rest)]
      rfl
    | cons next others =>
      rw [printItems_cons, List.length_append, List.length_cons] at enough
      obtain ⟨less, rfl⟩ : ∃ less, fuel = less + 1 := ⟨fuel - 1, by omega⟩
      have later := ih (List.cons_ne_nil next others)
        (fun item member => each item (List.mem_cons_of_mem _ member)) less (by omega)
      rw [printItems_cons, List.append_assoc, List.cons_append, readItems,
        read _ (by omega) (closed_comma _)]
      simp only [skipSpace_cons (c := ',') rfl, later]
      rfl

theorem readEntries_printEntries {depth : Nat} {entries : List (String × Document)}
    (nonempty : entries ≠ []) (each : ∀ entry ∈ entries, ReadsBack depth entry.2) (fuel : Nat)
    (rest : List Char) (enough : 2 * (printEntries entries).length ≤ fuel) :
    readEntries (fuel + 2) depth (printEntries entries ++ '}' :: rest) =
      some (entries, true, rest) := by
  induction entries generalizing fuel with
  | nil => contradiction
  | cons entry others ih =>
    obtain ⟨key, value⟩ := entry
    have read : ReadsBack depth value := each (key, value) List.mem_cons_self
    have opened (after : List Char) : string key ++ ':' :: after =
        '"' :: (key.toList.flatMap escaped ++ '"' :: ':' :: after) := by
      simp [string]
    cases others with
    | nil =>
      rw [printEntries, List.length_append, List.length_cons] at enough
      rw [printEntries, List.append_assoc, List.cons_append, opened, readEntries,
        skipSpace_cons rfl]
      simp only [scanString_string, skipSpace_cons (c := ':') rfl,
        read fuel _ (by omega) (closed_brace rest), skipSpace_cons (c := '}') rfl,
        String.ofList_toList]
    | cons next others =>
      rw [printEntries_cons, List.length_append, List.length_cons, List.length_append,
        List.length_cons] at enough
      obtain ⟨less, rfl⟩ : ∃ less, fuel = less + 1 := ⟨fuel - 1, by omega⟩
      have later := ih (List.cons_ne_nil next others)
        (fun entry member => each entry (List.mem_cons_of_mem _ member)) less (by omega)
      rw [printEntries_cons, List.append_assoc, List.cons_append, List.append_assoc,
        List.cons_append, opened, readEntries, skipSpace_cons rfl]
      simp only [scanString_string, skipSpace_cons (c := ':') rfl,
        read (less + 1) _ (by omega) (closed_comma _), skipSpace_cons (c := ',') rfl,
        String.ofList_toList, later]
      rfl

theorem readValue_list {c : Char} (solid : isSpace c = false) (notEnd : c ≠ ']') {fuel depth : Nat}
    {input rest : List Char} {items : List Document}
    (read : readItems fuel depth (c :: input) = some (items, rest)) :
    readValue (fuel + 1) (depth + 1) ('[' :: c :: input) = some (.list items, rest) := by
  rw [readValue, skipSpace_cons rfl]
  simp only [skipSpace_cons solid, Nat.add_one_ne_zero, if_false, Nat.add_sub_cancel]
  split
  next same => exact absurd (List.cons.inj same).1 notEnd
  next =>
    rw [read]
    rfl

/-- The first key of a table is told from its end. -/
theorem readValue_table {fuel depth : Nat} {input rest : List Char}
    {entries : List (String × Document)}
    (read : readEntries fuel depth ('"' :: input) = some (entries, true, rest)) :
    readValue (fuel + 1) (depth + 1) ('{' :: '"' :: input) = some (.table entries, rest) := by
  rw [readValue, skipSpace_cons rfl]
  change Option.map _ (readEntries fuel depth ('"' :: input)) = _
  rw [read]
  rfl

theorem readsBack_of_printable {depth : Nat} {document : Document}
    (printable : Printable depth document) : ReadsBack depth document := by
  induction printable with
  | null depth =>
    intro fuel rest _ _
    rfl
  | bool depth value =>
    intro fuel rest _ _
    cases value with
    | true => rfl
    | false => rfl
  | int depth value low high =>
    intro fuel rest _ closed
    obtain ⟨c, others, written, numeric⟩ := toString_cons value
    have read := readNumber_toString value low high closed
    rw [written, List.cons_append] at read
    rw [print, written, List.cons_append, readValue_number numeric, read]
  | text depth value =>
    intro fuel rest _ _
    rw [print, string, List.cons_append, List.append_assoc, readValue, skipSpace_cons rfl]
    simp only [List.singleton_append, scanString_string]
    simp
  | list depth items each ih =>
    intro fuel rest enough _
    rw [print, List.length_cons, List.length_append, List.length_singleton] at enough
    rw [print, List.cons_append, List.append_assoc, List.singleton_append]
    cases items with
    | nil => rfl
    | cons item others =>
      obtain ⟨less, rfl⟩ : ∃ less, fuel = less + 2 := ⟨fuel - 2, by omega⟩
      have read := readItems_printItems (List.cons_ne_nil item others) ih less rest (by omega)
      obtain ⟨c, input, written, solid, notEnd⟩ :=
        printItems_head others (each item List.mem_cons_self)
      rw [written, List.cons_append] at read
      rw [written, List.cons_append, readValue_list solid notEnd read]
  | table depth entries each ih =>
    intro fuel rest enough _
    rw [print, List.length_cons, List.length_append, List.length_singleton] at enough
    rw [print, List.cons_append, List.append_assoc, List.singleton_append]
    cases entries with
    | nil => rfl
    | cons entry others =>
      obtain ⟨less, rfl⟩ : ∃ less, fuel = less + 2 := ⟨fuel - 2, by omega⟩
      have read := readEntries_printEntries (List.cons_ne_nil entry others) ih less rest (by omega)
      obtain ⟨input, written⟩ := printEntries_head entry others
      rw [written, List.cons_append] at read
      rw [written, List.cons_append, readValue_table read]

/-- A tree that is not nested too deep is what its text is read as. -/
theorem parse?_compact {document : Document} (printable : Printable 127 document) :
    parse? (compact document) = some document := by
  have read := readsBack_of_printable printable (2 * (print document).length) [] (by omega)
    (fun _ none => nomatch none)
  rw [List.append_nil] at read
  rw [parse?, compact, String.toList_ofList]
  simp only [read]
  rfl

end ListQuery.Json
