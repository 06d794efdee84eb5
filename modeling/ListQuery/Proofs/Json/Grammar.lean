import ListQuery.Proofs.Json.RoundTrip

/-!
# JSON on one line: which texts there are

The grammar of JSON texts without white space between their parts and with whole numbers only, apart
from what reads or writes them. What is written belongs to it (`isText_print`), and no text of it has
a character below the space, not even in a string (`IsText.visible`). So a tree is written on a line
that is read as this tree (`line_compact`).
-/
namespace ListQuery.Json

def IsHexDigit (c : Char) : Prop :=
  c.isDigit = true ∨ ('a' ≤ c ∧ c ≤ 'f') ∨ ('A' ≤ c ∧ c ≤ 'F')

/-- How one character of a string may be written. -/
inductive StringPart : List Char → Prop where
  | raw (c : Char) (notQuote : c ≠ '"') (notBackslash : c ≠ '\\') (visible : ' ' ≤ c) :
      StringPart [c]
  | marked (mark : Char) (known : mark ∈ ['"', '\\', '/', 'b', 'f', 'n', 'r', 't']) :
      StringPart ['\\', mark]
  | numbered (digits : List Char) (four : digits.length = 4) (hex : ∀ c ∈ digits, IsHexDigit c) :
      StringPart ('\\' :: 'u' :: digits)

inductive IsString : List Char → Prop where
  | quoted (parts : List (List Char)) (each : ∀ part ∈ parts, StringPart part) :
      IsString ('"' :: (parts.flatten ++ ['"']))

/-- A whole number, in which no zero stands before other digits. -/
inductive IsWhole : List Char → Prop where
  | signed (sign digits : List Char) (signs : sign = [] ∨ sign = ['-']) (nonempty : digits ≠ [])
      (decimal : ∀ c ∈ digits, c.isDigit = true)
      (plain : digits.head? = some '0' → digits.length = 1) : IsWhole (sign ++ digits)

/-- A JSON text without white space between its parts. -/
inductive IsText : List Char → Prop where
  | null : IsText ['n', 'u', 'l', 'l']
  | true : IsText ['t', 'r', 'u', 'e']
  | false : IsText ['f', 'a', 'l', 's', 'e']
  | number {text : List Char} (whole : IsWhole text) : IsText text
  | string {text : List Char} (quoted : IsString text) : IsText text
  | array (items : List (List Char)) (each : ∀ item ∈ items, IsText item) :
      IsText ('[' :: ([','].intercalate items ++ [']']))
  | object (entries : List (List Char × List Char)) (keys : ∀ entry ∈ entries, IsString entry.1)
      (values : ∀ entry ∈ entries, IsText entry.2) :
      IsText ('{' :: ([','].intercalate (entries.map fun entry => entry.1 ++ ':' :: entry.2) ++ ['}']))

/-! ## What is written -/

theorem isHexDigit_digitChar : ∀ n < 16, IsHexDigit (Nat.digitChar n) := by
  unfold IsHexDigit
  decide

theorem stringPart_escaped (c : Char) : StringPart (escaped c) := by
  have escape := escape_escaped c
  generalize escaped c = written at escape
  cases escape with
  | simple mark _ meaning =>
    refine .marked mark ?_
    unfold simpleEscape? at meaning
    split at meaning <;> first | contradiction | decide
  | hex low =>
    have small : c.toNat < 32 := low
    rw [hexDigits_of_lt c.toNat small]
    refine .numbered _ rfl fun digit member => ?_
    simp only [List.mem_cons, List.not_mem_nil, or_false] at member
    rcases member with rfl | rfl | rfl | rfl
    · exact .inl rfl
    · exact .inl rfl
    · exact isHexDigit_digitChar (c.toNat / 16) (by omega)
    · exact isHexDigit_digitChar (c.toNat % 16) (by omega)
  | raw notQuote notBackslash high => exact .raw c notQuote notBackslash (Char.not_lt.mp high)

theorem isString_string (text : String) : IsString (string text) := by
  rw [string, List.flatMap_def]
  refine .quoted _ fun part member => ?_
  obtain ⟨c, _, rfl⟩ := List.mem_map.mp member
  exact stringPart_escaped c

theorem isWhole_toString (value : Int) : IsWhole (toString value).toList := by
  rw [Text.toList_toString_int]
  refine .signed _ _ ?_ Nat.toDigits_ne_nil ?_ length_toDigits_of_head?_zero
  · split
    next => exact .inr rfl
    next => exact .inl rfl
  · exact fun c member => Nat.isDigit_of_mem_toDigits (by decide) (by decide) member

theorem printItems_eq (items : List Document) :
    printItems items = [','].intercalate (items.map print) := by
  induction items with
  | nil => rfl
  | cons item others ih =>
    cases others with
    | nil => simp [printItems]
    | cons next others =>
      rw [printItems_cons, ih]
      simp [List.intercalate_cons_cons]

theorem printEntries_eq (entries : List (String × Document)) :
    printEntries entries =
      [','].intercalate (entries.map fun entry => string entry.1 ++ ':' :: print entry.2) := by
  induction entries with
  | nil => rfl
  | cons entry others ih =>
    obtain ⟨key, value⟩ := entry
    cases others with
    | nil => simp [printEntries]
    | cons next others =>
      rw [printEntries_cons, ih]
      simp [List.intercalate_cons_cons]

theorem isText_print {depth : Nat} {document : Document} (printable : Printable depth document) :
    IsText (print document) := by
  induction printable with
  | null => exact .null
  | bool _ value =>
    cases value with
    | true => exact .true
    | false => exact .false
  | int _ value => exact .number (isWhole_toString value)
  | text _ value => exact .string (isString_string value)
  | list _ items _ ih =>
    rw [print, printItems_eq]
    refine .array _ fun text member => ?_
    obtain ⟨item, listed, rfl⟩ := List.mem_map.mp member
    exact ih item listed
  | table _ entries _ ih =>
    have each : ∀ entry ∈ entries.map (fun entry => (string entry.1, print entry.2)),
        IsString entry.1 ∧ IsText entry.2 := by
      intro entry member
      obtain ⟨source, listed, rfl⟩ := List.mem_map.mp member
      exact ⟨isString_string source.1, ih source listed⟩
    have object := IsText.object _ (fun entry member => (each entry member).1)
      fun entry member => (each entry member).2
    rw [List.map_map] at object
    rw [print, printEntries_eq]
    exact object

/-! ## What does not occur -/

/-- A text in which no character is below the space, so that it has no line break either. -/
def Visible (text : List Char) : Prop := ∀ c ∈ text, ' ' ≤ c

instance (text : List Char) : Decidable (Visible text) :=
  decidable_of_iff (text.all (' ' ≤ ·) = true) (by simp [Visible])

theorem visible_nil : Visible [] := List.forall_mem_nil _

@[simp] theorem visible_cons {c : Char} {rest : List Char} :
    Visible (c :: rest) ↔ ' ' ≤ c ∧ Visible rest := List.forall_mem_cons

@[simp] theorem visible_append {first second : List Char} :
    Visible (first ++ second) ↔ Visible first ∧ Visible second := List.forall_mem_append

theorem visible_intercalate {items : List (List Char)} (each : ∀ item ∈ items, Visible item) :
    Visible ([','].intercalate items) := by
  induction items with
  | nil => exact visible_nil
  | cons item others ih =>
    obtain ⟨first, rest⟩ := List.forall_mem_cons.mp each
    cases others with
    | nil => simpa using first
    | cons next others =>
      rw [List.intercalate_cons_cons, visible_append, visible_append]
      exact ⟨⟨first, by decide⟩, ih rest⟩

theorem space_le_of_isDigit {c : Char} (digit : c.isDigit = true) : ' ' ≤ c := by
  have low := ((Text.isDigit_iff c).mp digit).1
  exact Nat.le_trans (by decide) low

theorem space_le_of_isHexDigit {c : Char} (hex : IsHexDigit c) : ' ' ≤ c := by
  rcases hex with digit | ⟨low, _⟩ | ⟨low, _⟩
  · exact space_le_of_isDigit digit
  · exact Char.le_trans (by decide) low
  · exact Char.le_trans (by decide) low

theorem StringPart.visible {part : List Char} (spelled : StringPart part) : Visible part := by
  cases spelled with
  | raw c _ _ high => exact visible_cons.mpr ⟨high, visible_nil⟩
  | marked mark known =>
    have marks : Visible ['"', '\\', '/', 'b', 'f', 'n', 'r', 't'] := by decide
    exact visible_cons.mpr ⟨by decide, visible_cons.mpr ⟨marks mark known, visible_nil⟩⟩
  | numbered digits _ hex =>
    refine visible_cons.mpr ⟨by decide, visible_cons.mpr ⟨by decide, ?_⟩⟩
    exact fun c member => space_le_of_isHexDigit (hex c member)

theorem IsString.visible {text : List Char} (quoted : IsString text) : Visible text := by
  cases quoted with
  | quoted parts each =>
    refine visible_cons.mpr ⟨by decide, visible_append.mpr ⟨?_, by decide⟩⟩
    intro c member
    obtain ⟨part, listed, inside⟩ := List.mem_flatten.mp member
    exact (each part listed).visible c inside

theorem IsWhole.visible {text : List Char} (whole : IsWhole text) : Visible text := by
  cases whole with
  | signed sign digits signs _ decimal _ =>
    refine visible_append.mpr ⟨?_, fun c member => space_le_of_isDigit (decimal c member)⟩
    rcases signs with rfl | rfl
    · exact visible_nil
    · decide

theorem IsText.visible {text : List Char} (spelled : IsText text) : Visible text := by
  induction spelled with
  | null => decide
  | true => decide
  | false => decide
  | number whole => exact whole.visible
  | string quoted => exact quoted.visible
  | array items _ ih =>
    exact visible_cons.mpr ⟨by decide, visible_append.mpr ⟨visible_intercalate ih, by decide⟩⟩
  | object entries keys _ ih =>
    have each : ∀ entry ∈ entries, Visible (entry.1 ++ ':' :: entry.2) := by
      intro entry member
      refine visible_append.mpr ⟨(keys entry member).visible, ?_⟩
      exact visible_cons.mpr ⟨by decide, ih entry member⟩
    have inside := visible_intercalate (List.forall_mem_map.mpr each)
    exact visible_cons.mpr ⟨by decide, visible_append.mpr ⟨inside, by decide⟩⟩

/-- A single line of JSON that is read as a tree. -/
structure Line (text : String) (document : Document) : Prop where
  spelled : IsText text.toList
  visible : Visible text.toList
  read : parse? text = some document

theorem line_compact {document : Document} (printable : Printable 127 document) :
    Line (compact document) document := by
  have spelled : IsText (compact document).toList := by
    rw [compact, String.toList_ofList]
    exact isText_print printable
  exact ⟨spelled, spelled.visible, parse?_compact printable⟩

end ListQuery.Json
