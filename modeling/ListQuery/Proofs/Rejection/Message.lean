import ListQuery.Proofs.Text.Decimal
import ListQuery.Proofs.Text.Quoted
import ListQuery.Proofs.Text.Split
import ListQuery.Rejection

/-!
# Messages: a rejection can be told from its message

A message is a heading, which goes with the cause, and the data in writing (`toList_message`). The
heading is found whatever text the data hold, and with it the code (`codeOf?_message`). Under one
heading the data are found as well: texts stand at the end or before fixed words, numbers end at a
blank, and a quoted text is read back.
-/
namespace ListQuery.Rejection

/-! ## Heading and data -/

/-- The words of a message before the first of its data. -/
def heading : Rejection → String
  | filterSyntax _ => "Invalid filter parameter: "
  | fieldDisallowed _ => "Invalid filter property: "
  | ruleUnknown _ => "Invalid filter rule: "
  | ruleDisallowed _ => "Filter rule `"
  | sortSyntax _ => "Invalid sort parameter: "
  | limitBelowMinimum _ _ => "Page limit should not be less than "
  | limitAboveMaximum _ _ => "Page limit should not be greater than "
  | limitInvalid _ => "Invalid page limit: "
  | offsetOverflow _ _ => "Page "

/-- A bound and the number that is out of it. -/
def boundDetail (limit bound : Int64) : List Char :=
  (toString bound.toInt).toList ++ ' ' ::
    ("(got ".toList ++ ((toString limit.toInt).toList ++ ")".toList))

/-- A page that is too far out, and the limit that makes it so. -/
def pageDetail (page limit : UInt64) : List Char :=
  (toString page.toNat).toList ++ ' ' ::
    ("with limit ".toList ++ ((toString limit.toNat).toList ++ " is out of range".toList))

/-- The rest of a message. -/
def detail : Rejection → List Char
  | filterSyntax text | fieldDisallowed text | ruleUnknown text | sortSyntax text => text.toList
  | ruleDisallowed token => token.toList ++ "` not allowed".toList
  | limitBelowMinimum limit bound | limitAboveMaximum limit bound => boundDetail limit bound
  | limitInvalid raw => (Text.quoted raw).toList
  | offsetOverflow page limit => pageDetail page limit

theorem toList_message (rejection : Rejection) :
    rejection.message.toList = rejection.heading.toList ++ rejection.detail := by
  unfold message
  cases rejection with
  | filterSyntax directive => exact String.toList_append
  | fieldDisallowed property => exact String.toList_append
  | ruleUnknown token => exact String.toList_append
  | ruleDisallowed token =>
    simp only [heading, detail, String.toList_append, List.append_assoc]
  | sortSyntax directive => exact String.toList_append
  | limitBelowMinimum limit minimum =>
    simp only [heading, detail, boundDetail, String.toList_append, List.append_assoc]
    rfl
  | limitAboveMaximum limit maximum =>
    simp only [heading, detail, boundDetail, String.toList_append, List.append_assoc]
    rfl
  | limitInvalid raw => exact String.toList_append
  | offsetOverflow page limit =>
    simp only [heading, detail, pageDetail, String.toList_append, List.append_assoc]
    rfl

/-! ## The cause -/

/-- The headings with their codes. Only the last begins another one. -/
def headings : List (String × String) :=
  [("Invalid filter parameter: ", "INVALID_FILTER_SYNTAX"),
    ("Invalid filter property: ", "DISALLOWED_FIELD"),
    ("Invalid filter rule: ", "UNKNOWN_RULE"),
    ("Filter rule `", "DISALLOWED_RULE"),
    ("Invalid sort parameter: ", "INVALID_SORT_SYNTAX"),
    ("Page limit should not be less than ", "LIMIT_BELOW_MINIMUM"),
    ("Page limit should not be greater than ", "LIMIT_ABOVE_MAXIMUM"),
    ("Invalid page limit: ", "INVALID_LIMIT"),
    ("Page ", "OFFSET_OVERFLOW")]

def codeOf? (message : List Char) : Option String :=
  (headings.find? fun entry => entry.1.toList.isPrefixOf message).map Prod.snd

/-- A page is written in digits, so that no heading of a limit begins its message. -/
theorem codeOf?_offsetOverflow (page limit : UInt64) :
    codeOf? ("Page ".toList ++ detail (offsetOverflow page limit)) = some "OFFSET_OVERFLOW" := by
  obtain ⟨c, digits, written, digit⟩ := Text.toDigits_cons page.toNat
  have other : ('l' == c) = false := by
    refine beq_false_of_ne ?_
    rintro rfl
    contradiction
  rw [detail, pageDetail, Nat.toString_eq_repr, Nat.toList_repr, written, List.cons_append]
  generalize digits ++ _ = rest
  simp [codeOf?, headings, List.isPrefixOf, other]

theorem codeOf?_message (rejection : Rejection) :
    codeOf? rejection.message.toList = some rejection.code := by
  rw [toList_message]
  cases rejection with
  | offsetOverflow page limit => exact codeOf?_offsetOverflow page limit
  | _ => simp [codeOf?, headings, heading, code, List.isPrefixOf]

/-- Rejections of one cause, with data that may differ. -/
inductive SameCause : Rejection → Rejection → Prop where
  | filterSyntax (first second : String) : SameCause (.filterSyntax first) (.filterSyntax second)
  | fieldDisallowed (first second : String) :
      SameCause (.fieldDisallowed first) (.fieldDisallowed second)
  | ruleUnknown (first second : String) : SameCause (.ruleUnknown first) (.ruleUnknown second)
  | ruleDisallowed (first second : String) :
      SameCause (.ruleDisallowed first) (.ruleDisallowed second)
  | sortSyntax (first second : String) : SameCause (.sortSyntax first) (.sortSyntax second)
  | limitBelowMinimum (limit minimum limit' minimum' : Int64) :
      SameCause (.limitBelowMinimum limit minimum) (.limitBelowMinimum limit' minimum')
  | limitAboveMaximum (limit maximum limit' maximum' : Int64) :
      SameCause (.limitAboveMaximum limit maximum) (.limitAboveMaximum limit' maximum')
  | limitInvalid (first second : String) : SameCause (.limitInvalid first) (.limitInvalid second)
  | offsetOverflow (page limit page' limit' : UInt64) :
      SameCause (.offsetOverflow page limit) (.offsetOverflow page' limit')

theorem sameCause_of_code_eq {first second : Rejection} (same : first.code = second.code) :
    SameCause first second := by
  cases first <;> cases second <;> first | constructor | simp [code] at same

theorem SameCause.heading_eq {first second : Rejection} (cause : SameCause first second) :
    first.heading = second.heading := by
  cases cause <;> rfl

/-! ## The data -/

/-- Two data of which the first ends at a blank and the second at fixed words. -/
theorem pair_inj {first second first' second' middle tail : List Char} (clear : ' ' ∉ first)
    (clear' : ' ' ∉ first')
    (same : first ++ ' ' :: (middle ++ (second ++ tail)) =
      first' ++ ' ' :: (middle ++ (second' ++ tail))) : first = first' ∧ second = second' := by
  obtain ⟨heads, rests⟩ := Text.cut_first_inj clear clear' same
  exact ⟨heads, List.append_cancel_right (List.append_cancel_left rests)⟩

theorem boundDetail_inj {limit bound limit' bound' : Int64}
    (same : boundDetail limit bound = boundDetail limit' bound') :
    limit = limit' ∧ bound = bound' := by
  obtain ⟨bounds, limits⟩ := pair_inj (Text.not_mem_toString_int rfl (by decide) bound.toInt)
    (Text.not_mem_toString_int rfl (by decide) bound'.toInt) same
  exact ⟨Int64.toInt_inj.mp (Text.toString_int_inj limits),
    Int64.toInt_inj.mp (Text.toString_int_inj bounds)⟩

theorem pageDetail_inj {page limit page' limit' : UInt64}
    (same : pageDetail page limit = pageDetail page' limit') : page = page' ∧ limit = limit' := by
  obtain ⟨pages, limits⟩ := pair_inj (Text.not_mem_toString_int rfl (by decide) page.toNat)
    (Text.not_mem_toString_int rfl (by decide) page'.toNat) same
  exact ⟨Text.toString_word_inj pages, Text.toString_word_inj limits⟩

theorem SameCause.eq_of_detail_eq {first second : Rejection} (cause : SameCause first second)
    (same : first.detail = second.detail) : first = second := by
  cases cause with
  | filterSyntax => exact congrArg Rejection.filterSyntax (String.toList_inj.mp same)
  | fieldDisallowed => exact congrArg Rejection.fieldDisallowed (String.toList_inj.mp same)
  | ruleUnknown => exact congrArg Rejection.ruleUnknown (String.toList_inj.mp same)
  | ruleDisallowed =>
    exact congrArg Rejection.ruleDisallowed (String.toList_inj.mp (List.append_cancel_right same))
  | sortSyntax => exact congrArg Rejection.sortSyntax (String.toList_inj.mp same)
  | limitBelowMinimum =>
    obtain ⟨rfl, rfl⟩ := boundDetail_inj same
    rfl
  | limitAboveMaximum =>
    obtain ⟨rfl, rfl⟩ := boundDetail_inj same
    rfl
  | limitInvalid =>
    exact congrArg Rejection.limitInvalid (Text.quoted_inj.mp (String.toList_inj.mp same))
  | offsetOverflow =>
    obtain ⟨rfl, rfl⟩ := pageDetail_inj same
    rfl

theorem code_eq_of_message_eq {first second : Rejection} (same : first.message = second.message) :
    first.code = second.code := by
  apply Option.some.inj
  rw [← codeOf?_message, ← codeOf?_message, same]

theorem eq_of_message_eq {first second : Rejection} (same : first.message = second.message) :
    first = second := by
  have cause := sameCause_of_code_eq (code_eq_of_message_eq same)
  have written := congrArg String.toList same
  rw [toList_message, toList_message, cause.heading_eq] at written
  exact cause.eq_of_detail_eq (List.append_cancel_left written)

/--
Two rejections have the same message only if they are the same, data and all. So a message goes with
one code, and a limit that is no number can be read off the message that quotes it.
-/
theorem message_identifies (first second : Rejection) :
    (first.message = second.message ↔ first = second) ∧
    (first.message = second.message → first.code = second.code) ∧
    ∀ raw other : String,
      (limitInvalid raw).message = (limitInvalid other).message ↔ raw = other := by
  refine ⟨⟨eq_of_message_eq, congrArg message⟩, code_eq_of_message_eq, ?_⟩
  intro raw other
  constructor
  · intro same
    exact limitInvalid.inj (eq_of_message_eq same)
  · exact congrArg fun text => (limitInvalid text).message

end ListQuery.Rejection
