import ListQuery.Criterion
import ListQuery.Proofs.Text.Regex
import ListQuery.SortKey

/-!
# Spelling: the directives that have a meaning

A well-formed criterion keeps to the alphabets of its property and value, and a well-formed key to
that of its property. The forms that the readers match directives against accept exactly the texts
of well-formed criteria (`binaryForm_accepts`, `nullaryForm_accepts`), the capture of a sort
directive finds exactly the well-formed key it is the text of (`parts?_eq_some_iff`), and no two
well-formed criteria and no two keys share a text (`Criterion.text_injective`,
`SortKey.text_injective`).
-/
namespace ListQuery

theorem Rule.token_chars (rule : Rule) : ∀ c ∈ rule.token.toList, c.isLower = true := by
  rw [← List.all_eq_true]
  cases rule <;> rfl

theorem Direction.token_chars (direction : Direction) :
    ∀ c ∈ direction.token.toList, c.isLower = true := by
  rw [← List.all_eq_true]
  cases direction <;> rfl

namespace Criterion

/-- What the grammar of filter directives can express. -/
structure WellFormed (criterion : Criterion) : Prop where
  property_nonempty : criterion.property ≠ ""
  property_chars : ∀ c ∈ criterion.property.toList, isPropertyChar c = true
  value_fits :
    (criterion.rule.isNullary = true ∧ criterion.value = none) ∨
    (criterion.rule.isNullary = false ∧ ∃ value, criterion.value = some value ∧
      value ≠ "" ∧ ∀ c ∈ value.toList, isValueChar c = true)

theorem WellFormed.not_mem_property {criterion : Criterion} (formed : criterion.WellFormed)
    {c : Char} (foreign : isPropertyChar c = false) : c ∉ criterion.property.toList := by
  intro member
  have accepted := formed.property_chars c member
  rw [foreign] at accepted
  contradiction

theorem WellFormed.not_mem_value {criterion : Criterion} (formed : criterion.WellFormed)
    {c : Char} (foreign : isValueChar c = false) : c ∉ (criterion.value.getD "").toList := by
  rcases formed.value_fits with ⟨_, missing⟩ | ⟨_, value, given, _, chars⟩
  · simp [missing]
  · intro member
    rw [given, Option.getD_some] at member
    have accepted := chars c member
    rw [foreign] at accepted
    contradiction

theorem WellFormed.property_clear {criterion : Criterion} (formed : criterion.WellFormed) :
    ':' ∉ criterion.property.toList := formed.not_mem_property rfl

/-- The rule says whether there is a value, so that no value is told from an empty one. -/
theorem WellFormed.value_eq {first second : Criterion} (formed : first.WellFormed)
    (formed' : second.WellFormed) (rules : first.rule = second.rule)
    (same : first.value.getD "" = second.value.getD "") : first.value = second.value := by
  rcases formed.value_fits with ⟨nullary, missing⟩ | ⟨binary, value, given, _⟩
  · rcases formed'.value_fits with ⟨_, missing'⟩ | ⟨binary, _⟩
    · rw [missing, missing']
    · rw [rules, binary] at nullary
      contradiction
  · rcases formed'.value_fits with ⟨nullary, _⟩ | ⟨_, value', given', _⟩
    · rw [rules, nullary] at binary
      contradiction
    · rw [given, given', Option.getD_some, Option.getD_some] at same
      rw [given, given', same]

theorem text_nullary (property : String) (rule : Rule) :
    (Criterion.mk property rule none).text.toList =
      property.toList ++ ':' :: rule.token.toList := by
  simp [text]

theorem text_binary (property : String) (rule : Rule) (value : String) :
    (Criterion.mk property rule (some value)).text.toList =
      property.toList ++ ':' :: (rule.token.toList ++ ':' :: value.toList) := by
  simp [text]

theorem text_nonempty (criterion : Criterion) : criterion.text ≠ "" := by
  intro empty
  have colon : ':' ∈ criterion.text.toList := by
    obtain ⟨property, rule, value⟩ := criterion
    cases value with
    | none => simp [text_nullary]
    | some value => simp [text_binary]
  simp [empty] at colon

/-- Cutting a text twice at a colon finds the parts that it was put together from. -/
theorem splitFirst_text (criterion : Criterion) (clear : ':' ∉ criterion.property.toList) :
    ∃ rest, Text.splitFirst ':' criterion.text.toList = (criterion.property.toList, some rest) ∧
      Text.splitFirst ':' rest =
        (criterion.rule.token.toList, criterion.value.map String.toList) := by
  obtain ⟨property, rule, value⟩ := criterion
  have token_clear : ':' ∉ rule.token.toList := by
    intro member
    have lower := rule.token_chars ':' member
    contradiction
  cases value with
  | none =>
    rw [text_nullary]
    exact ⟨_, Text.splitFirst_append clear, Text.splitFirst_eq_self token_clear⟩
  | some value =>
    rw [text_binary]
    exact ⟨_, Text.splitFirst_append clear, Text.splitFirst_append token_clear⟩

theorem text_injective {first second : Criterion} (firstFormed : first.WellFormed)
    (secondFormed : second.WellFormed) (same : first.text = second.text) : first = second := by
  obtain ⟨rest, cut, inner⟩ := splitFirst_text first firstFormed.property_clear
  obtain ⟨rest', cut', inner'⟩ := splitFirst_text second secondFormed.property_clear
  rw [same, cut'] at cut
  simp only [Prod.mk.injEq, Option.some.injEq] at cut
  obtain ⟨properties, rfl⟩ := cut
  rw [inner'] at inner
  simp only [Prod.mk.injEq] at inner
  obtain ⟨tokens, values⟩ := inner
  have rules : second.rule = first.rule := by
    apply Option.some.inj
    rw [← Rule.ofToken?_token second.rule, ← Rule.ofToken?_token first.rule,
      String.toList_inj.mp tokens]
  have valuesEq : second.value = first.value :=
    Option.map_injective (fun _ _ => String.toList_inj.mp) values
  obtain ⟨property, rule, value⟩ := first
  obtain ⟨property', rule', value'⟩ := second
  cases String.toList_inj.mp properties
  cases rules
  cases valuesEq
  rfl

theorem mem_binary_tokens (token : String) :
    token ∈ ["eq", "neq", "gt", "gte", "lt", "lte", "like", "nlike", "in", "nin"] ↔
      ∃ rule : Rule, rule.isNullary = false ∧ rule.token = token := by
  constructor
  · have table : ∀ token ∈ ["eq", "neq", "gt", "gte", "lt", "lte", "like", "nlike", "in", "nin"],
        ∃ rule ∈ Rule.all, rule.isNullary = false ∧ rule.token = token := by decide
    intro member
    obtain ⟨rule, _, found⟩ := table token member
    exact ⟨rule, found⟩
  · intro spelled
    obtain ⟨rule, binary, rfl⟩ := spelled
    cases rule <;> first | contradiction | decide

theorem mem_nullary_tokens (token : String) :
    token ∈ ["isnull", "isnotnull", "istrue", "isfalse"] ↔
      ∃ rule : Rule, rule.isNullary = true ∧ rule.token = token := by
  constructor
  · have table : ∀ token ∈ ["isnull", "isnotnull", "istrue", "isfalse"],
        ∃ rule ∈ Rule.all, rule.isNullary = true ∧ rule.token = token := by decide
    intro member
    obtain ⟨rule, _, found⟩ := table token member
    exact ⟨rule, found⟩
  · intro spelled
    obtain ⟨rule, nullary, rfl⟩ := spelled
    cases rule <;> first | contradiction | decide

open Text Regex

/-- The letters of a segment that is spelled from an alphabet. -/
theorem spells_segment (accepts : Char → Bool) (segment : String) :
    Spells (oneOrMore accepts) segment.toList ↔
      segment ≠ "" ∧ ∀ c ∈ segment.toList, accepts c = true := by
  simp [spells_oneOrMore]

theorem binaryForm_accepts (directive : List Char) :
    binaryForm.accepts directive = true ↔
      ∃ criterion : Criterion, criterion.WellFormed ∧ criterion.rule.isNullary = false ∧
        criterion.text.toList = directive := by
  simp only [binaryForm, accepts_iff, spells_inOrder_colon, spells_inOrder_singleton,
    spells_segment, spells_anyOf, String.ofList_toList, mem_binary_tokens]
  constructor
  · intro matched
    obtain ⟨property, _, rfl, propertySpelled, token, _, rfl, named, value, rfl, valueSpelled⟩ :=
      matched
    obtain ⟨rule, binary, rfl⟩ := named
    obtain ⟨property_nonempty, property_chars⟩ := propertySpelled
    have value_fits : ∃ given, some value = some given ∧ given ≠ "" ∧
        ∀ c ∈ given.toList, isValueChar c = true := ⟨value, rfl, valueSpelled⟩
    refine ⟨⟨property, rule, some value⟩, ?_, binary, text_binary property rule value⟩
    exact ⟨property_nonempty, property_chars, .inr ⟨binary, value_fits⟩⟩
  · intro spelling
    obtain ⟨⟨property, rule, value⟩, formed, binary, rfl⟩ := spelling
    have propertySpelled := And.intro formed.property_nonempty formed.property_chars
    rcases formed.value_fits with ⟨nullary, _⟩ | ⟨_, value, rfl, valueSpelled⟩
    · simp [binary] at nullary
    · refine ⟨property, _, text_binary property rule value, propertySpelled, ?_⟩
      exact ⟨rule.token, _, rfl, ⟨rule, binary, rfl⟩, value, rfl, valueSpelled⟩

theorem nullaryForm_accepts (directive : List Char) :
    nullaryForm.accepts directive = true ↔
      ∃ criterion : Criterion, criterion.WellFormed ∧ criterion.rule.isNullary = true ∧
        criterion.text.toList = directive := by
  simp only [nullaryForm, accepts_iff, spells_inOrder_colon, spells_inOrder_singleton,
    spells_segment, spells_anyOf, String.ofList_toList, mem_nullary_tokens]
  constructor
  · intro matched
    obtain ⟨property, _, rfl, propertySpelled, token, rfl, named⟩ := matched
    obtain ⟨rule, nullary, rfl⟩ := named
    obtain ⟨property_nonempty, property_chars⟩ := propertySpelled
    refine ⟨⟨property, rule, none⟩, ?_, nullary, text_nullary property rule⟩
    exact ⟨property_nonempty, property_chars, .inl ⟨nullary, rfl⟩⟩
  · intro spelling
    obtain ⟨⟨property, rule, value⟩, formed, nullary, rfl⟩ := spelling
    have propertySpelled := And.intro formed.property_nonempty formed.property_chars
    rcases formed.value_fits with ⟨_, rfl⟩ | ⟨binary, _⟩
    · refine ⟨property, _, text_nullary property rule, propertySpelled, ?_⟩
      exact ⟨rule.token, rfl, rule, nullary, rfl⟩
    · simp [binary] at nullary

/-- The two forms together are the grammar. -/
theorem forms_accept (directive : String) :
    (binaryForm.accepts directive.toList = true ∨ nullaryForm.accepts directive.toList = true) ↔
      ∃ criterion : Criterion, criterion.WellFormed ∧ criterion.text = directive := by
  simp only [binaryForm_accepts, nullaryForm_accepts, String.toList_inj]
  constructor
  · intro spelling
    rcases spelling with ⟨criterion, formed, _, spelled⟩ | ⟨criterion, formed, _, spelled⟩
    · exact ⟨criterion, formed, spelled⟩
    · exact ⟨criterion, formed, spelled⟩
  · intro spelling
    obtain ⟨criterion, formed, spelled⟩ := spelling
    cases arity : criterion.rule.isNullary with
    | false => exact .inl ⟨criterion, formed, arity, spelled⟩
    | true => exact .inr ⟨criterion, formed, arity, spelled⟩

end Criterion

namespace SortKey

open Text Regex

/-- What the grammar of sort directives can express. -/
structure WellFormed (key : SortKey) : Prop where
  property_nonempty : key.property ≠ ""
  property_chars : ∀ c ∈ key.property.toList, c.isAlphanum = true

theorem text_toList (key : SortKey) :
    key.text.toList = key.property.toList ++ ':' :: key.direction.token.toList := by
  simp [text]

theorem text_nonempty (key : SortKey) : key.text ≠ "" := by
  intro empty
  have colon : ':' ∈ key.text.toList := by simp [text_toList]
  simp [empty] at colon

/-- A directive is cut into the parts of the key that it is the text of. -/
theorem parts?_eq_some_iff (directive property token : String) :
    parts? directive = some (property, token) ↔
      ∃ direction : Direction, direction.token = token ∧
        (SortKey.mk property direction).WellFormed ∧
        (SortKey.mk property direction).text = directive := by
  have clear : ∀ part, Spells (oneOrMore Char.isAlphanum) part → ':' ∉ part := by
    intro part spelled member
    have accepted := ((spells_oneOrMore _ _).mp spelled).2 ':' member
    contradiction
  have tokens (token : String) : token ∈ ["asc", "desc"] ↔
      ∃ direction : Direction, direction.token = token := by
    simp only [List.mem_cons, List.not_mem_nil, or_false]
    constructor
    · intro listed
      rcases listed with rfl | rfl
      · exact ⟨.ascending, rfl⟩
      · exact ⟨.descending, rfl⟩
    · intro spelled
      obtain ⟨direction, rfl⟩ := spelled
      cases direction <;> decide
  simp only [parts?, Option.map_eq_some_iff, Prod.exists, capture_iff _ _ _ _ _ _ clear,
    spells_oneOrMore, spells_anyOf, tokens, Prod.mk.injEq]
  constructor
  · intro captured
    obtain ⟨head, tail, ⟨cut, ⟨nonempty, chars⟩, direction, spelled⟩, rfl, rfl⟩ := captured
    refine ⟨direction, spelled, ⟨by simpa using nonempty, by simpa using chars⟩, ?_⟩
    rw [← String.toList_inj, text_toList, cut, spelled]
    simp
  · intro spelling
    obtain ⟨direction, rfl, formed, rfl⟩ := spelling
    refine ⟨property.toList, direction.token.toList, ⟨text_toList _, ?_, direction, ?_⟩, ?_, ?_⟩
    · exact ⟨by simpa using formed.property_nonempty, formed.property_chars⟩
    · simp
    · simp
    · simp

/-- A property may be any text here, since the last colon of a text is the one before the direction. -/
theorem text_injective {first second : SortKey} (same : first.text = second.text) :
    first = second := by
  have clear (direction : Direction) : ':' ∉ direction.token.toList := by
    intro member
    have lower := direction.token_chars ':' member
    contradiction
  have written := congrArg String.toList same
  rw [text_toList, text_toList] at written
  obtain ⟨properties, tokens⟩ :=
    Text.cut_last_inj (clear first.direction) (clear second.direction) written
  have directions : first.direction = second.direction := by
    apply Option.some.inj
    rw [← Direction.ofToken?_token first.direction, ← Direction.ofToken?_token second.direction,
      String.toList_inj.mp tokens]
  obtain ⟨property, direction⟩ := first
  cases String.toList_inj.mp properties
  cases directions
  rfl

end SortKey

end ListQuery
