import ListQuery.Proofs.Codec.Printing
import ListQuery.Proofs.Codec.Spelling
import Mathlib.Logic.Relation

/-!
# Recovery: reading undoes writing in every spelling

A value is read back from what it is written as, and after a change of spelling a tree is read as
the same value as before. By induction on the changes the value is read back from every tree that
they lead to (`decode_respelling`), for all types at once (`recovered`).
-/
namespace ListQuery

/-- A tree as it is written again after it was read. -/
def rewritten (α : Type) [Codec α] (surplus : Surplus) (document : Document) : Decoded Document :=
  encode <$> (decode surplus document : Decoded α)

/-- One tree is spelled from another in so many changes, each at any depth. -/
def Respelling (α : Type) [Codec α] [Spelling α] : Document → Document → Prop :=
  Relation.ReflTransGen (Spelling.shape α).Respelled

/--
What is written is read back as the same value, from its text and from every tree that it is
respelled to, and from the text of such a tree if that is read as the tree. What is read and written
again stays as it is from then on.
-/
structure Recovered (α : Type) [Codec α] [Spelling α] : Prop where
  text (surplus : Surplus) (value : α) :
    (Json.parse? (Json.compact (encode value))).map (decode surplus) = some (.ok value)
  tree (surplus : Surplus) {value : α} {document : Document}
    (respelled : Respelling α (encode value) document) : decode surplus document = .ok value
  treeText (surplus : Surplus) {value : α} {document : Document}
    (respelled : Respelling α (encode value) document) (printable : Json.Printable 127 document) :
    (Json.parse? (Json.compact document)).map (decode surplus) = some (.ok value)
  again (surplus : Surplus) (document : Document) :
    (rewritten α surplus document).andThen (rewritten α surplus) = rewritten α surplus document

theorem decode_respelling {α : Type} [Codec α] [Spelling α] {surplus : Surplus} {value : α}
    {document document' : Document} (respelled : Respelling α document document')
    (read : decode surplus document = .ok value) : decode surplus document' = .ok value := by
  induction respelled with
  | refl => exact read
  | tail _ step ih => exact decode_respelled step ih

theorem recovered (α : Type) [Codec α] [Lossless α] [Printed α] [Spelling α]
    (flat : Printed.levels α ≤ 127) : Recovered α where
  text surplus value := by
    rw [Json.parse?_compact (printable_encode flat value), Option.map_some, decode_encode]
  tree surplus value _ respelled := decode_respelling respelled (decode_encode surplus value)
  treeText surplus value document respelled printable := by
    rw [Json.parse?_compact printable, Option.map_some,
      decode_respelling respelled (decode_encode surplus value)]
  again surplus document := by
    unfold rewritten
    cases (decode surplus document : Decoded α) with
    | ok value =>
      change encode <$> (decode surplus (encode value) : Decoded α) = _
      rw [decode_encode]
    | fault path => rfl

/-- What the service reads and writes is recovered in every spelling. -/
theorem values_recovered :
    Recovered Criterion ∧ Recovered SortKey ∧ Recovered Window ∧ Recovered FilterPolicy ∧
    Recovered SortDefault ∧ Recovered SortPolicy ∧ Recovered LimitPolicy ∧ Recovered Policy ∧
    Recovered ParameterNames ∧ Recovered Directives ∧ Recovered PageSummary ∧
    Recovered (Envelope String) ∧ Recovered Settings ∧ Recovered Http.ErrorBody := by
  refine ⟨recovered _ ?_, recovered _ ?_, recovered _ ?_, recovered _ ?_, recovered _ ?_,
    recovered _ ?_, recovered _ ?_, recovered _ ?_, recovered _ ?_, recovered _ ?_,
    recovered _ ?_, recovered _ ?_, recovered _ ?_, recovered _ ?_⟩
  all_goals decide

/--
A criterion as a list with a null for its value and a token for its rule, in a table with its keys
in another order and one that is unknown.
-/
theorem values_recovered_directives :
    let directives : Directives := ⟨[⟨"name", .isNull, none⟩], none, ⟨1, 20, 20, 0⟩⟩
    let document : Document := .table [
      ("sort", .null), ("pagination", encode directives.window),
      ("filters", .list [.list [.text "name", .text "isnull", .null]]), ("note", .bool true)]
    Respelling Directives (encode directives) document ∧
      decode .refused document = .ok directives ∧
      (Json.parse? (Json.compact document)).map (decode .refused) = some (.ok directives) := by
  intro directives document
  let entries (criterion : Document) : List (String × Document) := [
    ("filters", .list [criterion]), ("pagination", encode directives.window), ("sort", .null)]
  let row (rule : String) : Document := .list [.text "name", .text rule, .null]
  have positions : (Spelling.shape Criterion).Respelled
      (encode (⟨"name", .isNull, none⟩ : Criterion)) (row "is_null") :=
    .positions (.cons (.given _ _ _ (.head _)) (.cons (.given _ _ _ (.tail _ (.head _)))
      (.cons (.absent _ _ (by decide)) .nil)))
  have token : (Spelling.shape Criterion).Respelled (row "is_null") (row "isnull") :=
    .position [_] [_] [_] [_] rfl (.token (by decide))
  have inside {criterion criterion' : Document}
      (respelled : (Spelling.shape Criterion).Respelled criterion criterion') :
      (Spelling.shape Directives).Respelled (.table (entries criterion))
        (.table (entries criterion')) :=
    .field [] _ (.head _) (.item [] [] respelled)
  have unknown : (Spelling.shape Directives).Respelled (.table (entries (row "isnull")))
      (.table (("note", .bool true) :: entries (row "isnull"))) :=
    .unknown [] _ _ (by decide)
  have permuted : (Spelling.shape Directives).Respelled
      (.table (("note", .bool true) :: entries (row "isnull"))) document :=
    .permuted (List.reverse_perm _).symm
  have respelled : Respelling Directives (encode directives) document :=
    .head (inside positions) (.head (inside token) (.head unknown (.single permuted)))
  have printableRow : Json.Printable 125 (row "isnull") := by
    refine .list 124 _ fun item member => ?_
    simp only [List.mem_cons, List.not_mem_nil, or_false] at member
    rcases member with rfl | rfl | rfl
    · exact .text 124 "name"
    · exact .text 124 "isnull"
    · exact .null 124
  have printable : Json.Printable 127 document := by
    refine .table 126 _ fun entry member => ?_
    simp only [List.mem_cons, List.not_mem_nil, or_false] at member
    rcases member with rfl | rfl | rfl | rfl
    · exact .null 126
    · exact printable_encode (by decide) directives.window
    · exact .list 125 _ (by simpa using printableRow)
    · exact .bool 126 true
  have directivesRecovered : Recovered Directives := values_recovered.2.2.2.2.2.2.2.2.2.1
  exact ⟨respelled, directivesRecovered.tree .refused respelled,
    directivesRecovered.treeText .refused respelled printable⟩

end ListQuery
