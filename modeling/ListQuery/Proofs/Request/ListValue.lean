import ListQuery.Proofs.Request.Filter
import ListQuery.Proofs.Text.Split

/-!
# List values: items between separators

The value of a list rule is cut at commas and bars. However its items are joined, they come back in
order (`Listing.values_eq`), and what comes back of any value is the value without its separators,
in pieces that hold none (`join_values`, `isItem_of_mem_values`). Of a criterion that a policy
admits, the items keep to the alphabet of values (`Admitted.item_chars`).
-/
namespace ListQuery

theorem Rule.takesList_iff (rule : Rule) :
    rule.takesList = true ↔ rule = .isIn ∨ rule = .notIn := by
  cases rule <;> decide

namespace Criterion

/-- Separators in a row, or none. -/
def IsRun (run : List Char) : Prop := ∀ c ∈ run, c = ',' ∨ c = '|'

/-- What can be one item of a list. -/
def IsItem (item : String) : Prop := item ≠ "" ∧ ',' ∉ item.toList ∧ '|' ∉ item.toList

/-- Items, at least one, with a run of separators between each two of them. -/
inductive Joined : List String → List Char → Prop where
  | last {item : String} (formed : IsItem item) : Joined [item] item.toList
  | more {item : String} {gap : List Char} {items : List String} {text : List Char}
      (formed : IsItem item) (run : IsRun gap) (apart : gap ≠ []) (rest : Joined items text) :
      Joined (item :: items) (item.toList ++ (gap ++ text))

/-- A value that lists items, with any separators before the first and after the last of them. -/
inductive Listing : List String → String → Prop where
  | nothing {value : String} (run : IsRun value.toList) : Listing [] value
  | around {items : List String} {value : String} {before text after : List Char}
      (joined : Joined items text) (leading : IsRun before) (trailing : IsRun after)
      (whole : value.toList = before ++ (text ++ after)) : Listing items value

theorem isListSeparator_iff (c : Char) : isListSeparator c = true ↔ c = ',' ∨ c = '|' := by
  simp [isListSeparator]

theorem IsRun.separators {run : List Char} (isRun : IsRun run) :
    ∀ c ∈ run, isListSeparator c = true := fun c member =>
  (isListSeparator_iff c).mpr (isRun c member)

/-! ## What is listed comes back -/

theorem IsItem.pieces {item : String} (formed : IsItem item) :
    Text.pieces isListSeparator item.toList = [item.toList] := by
  obtain ⟨nonempty, noComma, noBar⟩ := formed
  refine Text.pieces_word (by simpa using nonempty) fun c member => ?_
  rw [Bool.eq_false_iff, ne_eq, isListSeparator_iff]
  rintro (rfl | rfl)
  · exact noComma member
  · exact noBar member

theorem Joined.pieces {items : List String} {text : List Char} (joined : Joined items text) :
    Text.pieces isListSeparator text = items.map String.toList := by
  induction joined with
  | last formed => exact formed.pieces
  | more formed run apart rest ih =>
    rw [Text.pieces_append_gap apart run.separators, formed.pieces, ih]
    rfl

theorem Listing.pieces {items : List String} {value : String} (listing : Listing items value) :
    Text.pieces isListSeparator value.toList = items.map String.toList := by
  cases listing with
  | nothing run => exact Text.pieces_eq_nil run.separators
  | around joined leading trailing whole =>
    rw [whole, Text.pieces_separators _ _ leading.separators,
      Text.pieces_append_separators trailing.separators, joined.pieces]

theorem values_of_takesList {criterion : Criterion} (list : criterion.rule.takesList = true)
    {value : String} (given : criterion.value = some value) :
    criterion.values = (Text.pieces isListSeparator value.toList).map String.ofList := by
  simp only [values, given, list, if_true]

theorem Listing.values_eq {criterion : Criterion} (list : criterion.rule.takesList = true)
    {value : String} (given : criterion.value = some value) {items : List String}
    (listing : Listing items value) : criterion.values = items := by
  rw [values_of_takesList list given, listing.pieces, List.map_map]
  simp

/-! ## What comes back of any value -/

theorem mem_values {criterion : Criterion} (list : criterion.rule.takesList = true)
    {value : String} (given : criterion.value = some value) {item : String}
    (member : item ∈ criterion.values) :
    item ≠ "" ∧ ∀ c ∈ item.toList, c ∈ value.toList ∧ isListSeparator c = false := by
  rw [values_of_takesList list given] at member
  obtain ⟨piece, listed, rfl⟩ := List.mem_map.mp member
  obtain ⟨nonempty, clear⟩ := Text.mem_pieces listed
  exact ⟨by simpa using nonempty, by simpa using clear⟩

theorem isItem_of_mem_values {criterion : Criterion} (list : criterion.rule.takesList = true)
    {value : String} (given : criterion.value = some value) {item : String}
    (member : item ∈ criterion.values) : IsItem item := by
  obtain ⟨nonempty, clear⟩ := mem_values list given member
  refine ⟨nonempty, fun comma => ?_, fun bar => ?_⟩
  · have separator := (clear ',' comma).2
    contradiction
  · have separator := (clear '|' bar).2
    contradiction

theorem join_values {criterion : Criterion} (list : criterion.rule.takesList = true)
    {value : String} (given : criterion.value = some value) :
    String.join criterion.values =
      String.ofList (value.toList.filter fun c => c ≠ ',' ∧ c ≠ '|') := by
  have kept : (fun c => !isListSeparator c) = fun c => decide (c ≠ ',' ∧ c ≠ '|') := by
    funext c
    rw [Bool.eq_iff_iff]
    simp [isListSeparator]
  have whole := Text.flatten_pieces isListSeparator value.toList
  rw [kept] at whole
  rw [← String.toList_inj, String.toList_join, String.toList_ofList, ← whole,
    values_of_takesList list given, List.flatMap_map]
  simp

/-- The value of an admitted criterion has no characters but letters, digits, `-` and separators. -/
theorem Admitted.item_chars {policy : FilterPolicy} {criterion : Criterion}
    (admitted : criterion.Admitted policy) (list : criterion.rule.takesList = true) {item : String}
    (member : item ∈ criterion.values) :
    item ≠ "" ∧ ∀ c ∈ item.toList, c.isAlphanum = true ∨ c = '-' := by
  rcases admitted.formed.value_fits with ⟨_, missing⟩ | ⟨_, value, given, _, chars⟩
  · simp [values, missing] at member
  · obtain ⟨nonempty, clear⟩ := mem_values list given member
    refine ⟨nonempty, fun c inside => ?_⟩
    obtain ⟨inValue, separates⟩ := clear c inside
    have accepted := chars c inValue
    simp only [isListSeparator, Bool.or_eq_false_iff] at separates
    simpa [isValueChar, separates] using accepted

/--
The items of a list rule's value come back in order, whatever separators join them; those of any
value hold no separator and are together the value without its separators; and those of a criterion
that was read are spelled with letters, digits and `-`. The value of any other rule is one item.
-/
theorem values_lossless (criterion : Criterion) :
    (criterion.rule = .isIn ∨ criterion.rule = .notIn →
      (∀ value, criterion.value = some value →
        (∀ items, Listing items value → criterion.values = items) ∧
        (∀ item ∈ criterion.values, IsItem item) ∧
        String.join criterion.values =
          String.ofList (value.toList.filter fun c => c ≠ ',' ∧ c ≠ '|')) ∧
      ∀ policy directives criteria,
        (Request.readFilters policy directives).result = .ok criteria → criterion ∈ criteria →
          ∀ item ∈ criterion.values,
            item ≠ "" ∧ ∀ c ∈ item.toList, c.isAlphanum = true ∨ c = '-') ∧
    (criterion.rule ≠ .isIn → criterion.rule ≠ .notIn → ∀ value, criterion.value = some value →
      criterion.values = [value]) := by
  constructor
  · intro listRule
    have list := criterion.rule.takesList_iff.mpr listRule
    constructor
    · intro value given
      exact ⟨fun items listing => listing.values_eq list given,
        fun item member => isItem_of_mem_values list given member, join_values list given⟩
    · intro policy directives criteria read member item listed
      obtain ⟨_, admitted⟩ := (Request.readFilters_eq_ok_iff policy directives criteria).mp read
      exact (admitted criterion member).item_chars list listed
  · intro notIn notNotIn value given
    have scalar : ¬ criterion.rule.takesList = true := by
      rw [criterion.rule.takesList_iff, not_or]
      exact ⟨notIn, notNotIn⟩
    simp only [values, given, if_neg scalar]

/-- Separators of both kinds at the start, in the middle and at the end. -/
theorem values_lossless_mixed :
    let criterion : Criterion := ⟨"status", .notIn, some "|,a,b-2||,c|"⟩
    Listing ["a", "b-2", "c"] "|,a,b-2||,c|" ∧ criterion.values = ["a", "b-2", "c"] ∧
      (Request.readFilters {} ["status:nin:|,a,b-2||,c|"]).result = .ok [criterion] ∧
      "b-2" ∈ criterion.values ∧ ∀ c ∈ "b-2".toList, c.isAlphanum = true ∨ c = '-' := by
  intro criterion
  have run (separators : List Char) (each : separators.all (fun c => c = ',' ∨ c = '|') = true) :
      IsRun separators := fun c member => by simpa using List.all_eq_true.mp each c member
  have joined : Joined ["a", "b-2", "c"] "a,b-2||,c".toList :=
    .more ⟨by decide, by decide, by decide⟩ (run [','] rfl) (by decide)
      (.more ⟨by decide, by decide, by decide⟩ (run ['|', '|', ','] rfl) (by decide)
        (.last ⟨by decide, by decide, by decide⟩))
  have listing : Listing ["a", "b-2", "c"] "|,a,b-2||,c|" :=
    .around joined (run ['|', ','] rfl) (run ['|'] rfl) rfl
  have read : (Request.readFilters {} ["status:nin:|,a,b-2||,c|"]).result = .ok [criterion] := rfl
  obtain ⟨lists, _⟩ := values_lossless criterion
  obtain ⟨lossless, spelled⟩ := lists (.inr rfl)
  obtain ⟨recovered, _, _⟩ := lossless _ rfl
  have values := recovered _ listing
  have member : "b-2" ∈ criterion.values := by
    rw [values]
    decide
  exact ⟨listing, values, read, member,
    (spelled _ _ _ read List.mem_cons_self "b-2" member).2⟩

end Criterion

end ListQuery
