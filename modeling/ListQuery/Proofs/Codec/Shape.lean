import ListQuery.Codec.Basic
import Mathlib.Data.List.Forall2
import Mathlib.Data.List.Nodup

/-!
# Shapes: in which ways a tree can be spelled

A shape says where the spelling of a tree is free, and `Shape.Respelled` is one change of spelling,
at any depth. A record is read through its members, and a change leaves each of them as it is, respells
it or turns it from absent to null (`Members.ofDocument_respelled`).
-/
namespace ListQuery

/-- Where the spelling of a tree is free. -/
inductive Shape where
  /-- A text or a number. -/
  | plain
  /-- One of a set of names, each of which may have a token in its place. -/
  | name (tokens : List (String × String))
  | optional (content : Shape)
  | list (item : Shape)
  /-- A table with keys of its own. -/
  | map (value : Shape)
  /-- The fields of a record in their own order. -/
  | record (fields : List (String × Shape))

namespace Shape

def isOptional : Shape → Bool
  | optional _ => true
  | _ => false

/-- What stands at the position of a field in place of a table. -/
inductive Placed (entries : List (String × Document)) : String × Shape → Document → Prop where
  | given (key : String) (shape : Shape) (value : Document) (member : (key, value) ∈ entries) :
      Placed entries (key, shape) value
  | absent (key : String) (content : Shape) (missing : ∀ entry ∈ entries, entry.1 ≠ key) :
      Placed entries (key, .optional content) .null

/-- One change of spelling: in this place, or in one part of the tree. -/
inductive Respelled : Shape → Document → Document → Prop where
  | token {tokens : List (String × String)} {name token : String}
      (member : (name, token) ∈ tokens) : Respelled (.name tokens) (.text name) (.text token)
  | permuted {fields : List (String × Shape)} {entries entries' : List (String × Document)}
      (permuted : entries.Perm entries') :
      Respelled (.record fields) (.table entries) (.table entries')
  | unknown {fields : List (String × Shape)} (before after : List (String × Document))
      {key : String} (value : Document) (foreign : ∀ field ∈ fields, field.1 ≠ key) :
      Respelled (.record fields) (.table (before ++ after))
        (.table (before ++ (key, value) :: after))
  | positions {fields : List (String × Shape)} {entries : List (String × Document)}
      {items : List Document} (placed : List.Forall₂ (Placed entries) fields items) :
      Respelled (.record fields) (.table entries) (.list items)
  | content {content : Shape} {value value' : Document} (inner : Respelled content value value') :
      Respelled (.optional content) value value'
  | item {item : Shape} (before after : List Document) {value value' : Document}
      (inner : Respelled item value value') :
      Respelled (.list item) (.list (before ++ value :: after)) (.list (before ++ value' :: after))
  | entry {shape : Shape} (before after : List (String × Document)) (key : String)
      {value value' : Document} (inner : Respelled shape value value') :
      Respelled (.map shape) (.table (before ++ (key, value) :: after))
        (.table (before ++ (key, value') :: after))
  | field {fields : List (String × Shape)} (before after : List (String × Document))
      {key : String} {shape : Shape} (member : (key, shape) ∈ fields) {value value' : Document}
      (inner : Respelled shape value value') :
      Respelled (.record fields) (.table (before ++ (key, value) :: after))
        (.table (before ++ (key, value') :: after))
  | position (first last : List (String × Shape)) (before after : List Document)
      {key : String} {shape : Shape} (aligned : first.length = before.length)
      {value value' : Document} (inner : Respelled shape value value') :
      Respelled (.record (first ++ (key, shape) :: last)) (.list (before ++ value :: after))
        (.list (before ++ value' :: after))

/-- No null is respelled, and none comes of it. -/
theorem Respelled.ne_null {shape : Shape} {document document' : Document}
    (respelled : Respelled shape document document') : document ≠ .null ∧ document' ≠ .null := by
  induction respelled with
  | content _ ih => exact ih
  | _ => exact ⟨nofun, nofun⟩

/-- What a change of spelling means for one field. -/
inductive FieldRespelled (shape : Shape) : Option Document → Option Document → Prop where
  | same (value : Option Document) : FieldRespelled shape value value
  | changed {value value' : Document} (respelled : shape.Respelled value value') :
      FieldRespelled shape (some value) (some value')
  | filled (optional : shape.isOptional = true) : FieldRespelled shape none (some .null)

end Shape

/-! ## Entries under one key -/

theorem lookup_eq_head?_filter {α : Type} (key : String) (entries : List (String × α)) :
    entries.lookup key = ((entries.filter (·.1 == key)).head?).map (·.2) := by
  induction entries with
  | nil => rfl
  | cons entry rest ih =>
    obtain ⟨name, value⟩ := entry
    by_cases same : name = key
    · subst same
      simp
    · have other : (key == name) = false := beq_false_of_ne (Ne.symm same)
      have other' : (name == key) = false := beq_false_of_ne same
      simp only [List.lookup_cons, other, List.filter_cons, other', ih]
      rfl

theorem filter_key_eq_of_mem {α : Type} {key : String} {value : α} {entries : List (String × α)}
    (once : (entries.filter (·.1 == key)).length ≤ 1) (member : (key, value) ∈ entries) :
    entries.filter (·.1 == key) = [(key, value)] := by
  have kept : (key, value) ∈ entries.filter (·.1 == key) :=
    List.mem_filter.mpr ⟨member, beq_self_eq_true key⟩
  generalize entries.filter (·.1 == key) = found at once kept
  match found with
  | [] => cases kept
  | [_] => rw [List.mem_singleton.mp kept]
  | _ :: _ :: _ => simp at once

theorem filter_key_eq_nil {α : Type} {key : String} {entries : List (String × α)}
    (missing : ∀ entry ∈ entries, entry.1 ≠ key) : entries.filter (·.1 == key) = [] :=
  List.filter_eq_nil_iff.mpr fun entry member => by simp [missing entry member]

/-- The only entry under a key, before and after it gets another value. -/
theorem filter_key_replaced {α : Type} {before after : List (String × α)} {key : String}
    {value : α} (value' : α)
    (once : ((before ++ (key, value) :: after).filter (·.1 == key)).length ≤ 1) :
    (before ++ (key, value) :: after).filter (·.1 == key) = [(key, value)] ∧
      (before ++ (key, value') :: after).filter (·.1 == key) = [(key, value')] := by
  have alone : before.filter (·.1 == key) = [] ∧ after.filter (·.1 == key) = [] := by
    simp only [List.filter_append, List.filter_cons, beq_self_eq_true, if_true, List.length_append,
      List.length_cons] at once
    constructor
    · exact List.length_eq_zero_iff.mp (by omega)
    · exact List.length_eq_zero_iff.mp (by omega)
  simp only [List.filter_append, List.filter_cons, beq_self_eq_true, alone, if_true]
  exact ⟨rfl, rfl⟩

theorem eq_of_perm_of_length_le_one {α : Type} {list list' : List α} (permuted : list.Perm list')
    (short : list.length ≤ 1) : list = list' := by
  match list with
  | [] => exact permuted.nil_eq
  | [_] => exact permuted.singleton_eq
  | _ :: _ :: _ => simp at short

/-! ## Members -/

namespace Members

def ofEntries (surplus : Surplus) (entries : List (String × Document)) : Members :=
  ⟨surplus, entries.map fun entry => (entry.1, .key entry.1, entry.2)⟩

def ofItems (surplus : Surplus) (names : List String) (items : List Document) : Members :=
  ⟨surplus, (names.zip items.zipIdx).map fun entry => (entry.1, .position entry.2.2, entry.2.1)⟩

/-- What a record gives for a field. -/
def value? (members : Members) (field : String) : Option Document :=
  (members.entries.lookup field).map (·.2)

/-- The members of a record in two spellings of it. -/
structure Respelled (fields : List (String × Shape)) (members members' : Members) : Prop where
  surplus_eq : members.surplus = members'.surplus
  field : ∀ field ∈ fields,
    field.2.FieldRespelled (members.value? field.1) (members'.value? field.1)

theorem ofDocument_table_iff (surplus : Surplus) (names : List String)
    (entries : List (String × Document)) (members : Members) :
    ofDocument surplus names (.table entries) = .ok members ↔
      (∀ name ∈ names, (entries.filter (·.1 == name)).length ≤ 1) ∧
      members = ofEntries surplus entries := by
  have once : (∀ name ∈ names, (entries.filter (·.1 == name)).length ≤ 1) ↔
      ¬ (names.any fun name => 1 < (entries.filter (·.1 == name)).length) = true := by
    simp
  rw [once, ofDocument]
  split
  next repeated =>
    constructor
    · intro made
      cases made
    · intro made
      exact absurd repeated made.1
  next distinct =>
    constructor
    · intro made
      cases made
      exact ⟨distinct, rfl⟩
    · intro made
      rw [made.2, ofEntries]

theorem lookup_ofEntries (surplus : Surplus) (entries : List (String × Document)) (name : String) :
    (ofEntries surplus entries).entries.lookup name =
      (entries.lookup name).map fun document => (.key name, document) := by
  induction entries with
  | nil => rfl
  | cons entry rest ih =>
    obtain ⟨key, value⟩ := entry
    simp only [ofEntries, List.map_cons, List.lookup_cons] at ih ⊢
    by_cases same : name = key
    · rw [same, beq_self_eq_true]
      rfl
    · rw [beq_false_of_ne same]
      exact ih

theorem value?_ofEntries (surplus : Surplus) (entries : List (String × Document)) (name : String) :
    (ofEntries surplus entries).value? name = entries.lookup name := by
  rw [value?, lookup_ofEntries, Option.map_map]
  exact Option.map_id_apply

theorem ofDocument_list_iff (surplus : Surplus) (names : List String) (items : List Document)
    (members : Members) :
    ofDocument surplus names (.list items) = .ok members ↔
      (surplus = .refused → items.length ≤ names.length) ∧
      members = ofItems surplus names items := by
  rw [ofDocument]
  split
  next excess =>
    constructor
    · intro made
      cases made
    · intro made
      exact absurd (made.1 excess.1) (Nat.not_le.mpr excess.2)
  next fits =>
    constructor
    · intro made
      cases made
      exact ⟨fun refused => Nat.not_lt.mp fun excess => fits ⟨refused, excess⟩, rfl⟩
    · intro made
      rw [made.2, ofItems]

theorem value?_ofItems (surplus : Surplus) (names : List String) (items : List Document)
    (name : String) :
    (ofItems surplus names items).value? name = (names.zip items).lookup name := by
  unfold ofItems
  generalize 0 = start
  induction names generalizing items start with
  | nil => rfl
  | cons first rest ih =>
    cases items with
    | nil => rfl
    | cons item items =>
      have later := ih items (start + 1)
      simp only [value?, List.zipIdx_cons, List.zip_cons_cons, List.map_cons,
        List.lookup_cons] at later ⊢
      cases name == first with
      | true => rfl
      | false => exact later

/-- The items of a list, one for each field, are found under the keys of the fields. -/
theorem lookup_zip_of_forall₂ {relation : String × Shape → Document → Prop}
    {fields : List (String × Shape)} {items : List Document}
    (distinct : (fields.map Prod.fst).Nodup) (related : List.Forall₂ relation fields items)
    {field : String × Shape} (member : field ∈ fields) :
    ∃ item, ((fields.map Prod.fst).zip items).lookup field.1 = some item ∧ relation field item := by
  induction related with
  | nil => cases member
  | @cons first item fields items head tail ih =>
    obtain ⟨fresh, distinct⟩ := List.nodup_cons.mp distinct
    rw [List.map_cons, List.zip_cons_cons, List.lookup_cons]
    rcases List.mem_cons.mp member with rfl | later
    · exact ⟨item, by rw [beq_self_eq_true], head⟩
    · have other : (field.1 == first.1) = false :=
        beq_false_of_ne fun same => fresh (same ▸ List.mem_map_of_mem later)
      rw [other]
      exact ih distinct later

theorem eq_of_mem_of_key_eq {α : Type} {fields : List (String × α)}
    (distinct : (fields.map Prod.fst).Nodup) {key : String} {a b : α} (first : (key, a) ∈ fields)
    (second : (key, b) ∈ fields) : a = b :=
  (Prod.mk.inj (List.inj_on_of_nodup_map distinct first second rfl)).2

/--
The members of a table with each key at most once, in another table that has the same entries under
each field.
-/
theorem ofDocument_table_respelled {surplus : Surplus} {fields : List (String × Shape)}
    {entries entries' : List (String × Document)} {members : Members}
    (kept : ∀ field ∈ fields, (entries.filter (·.1 == field.1)).length ≤ 1 →
      (entries'.filter (·.1 == field.1)).length ≤ 1 ∧
        field.2.FieldRespelled (entries.lookup field.1) (entries'.lookup field.1))
    (read : ofDocument surplus (fields.map Prod.fst) (.table entries) = .ok members) :
    ∃ members', ofDocument surplus (fields.map Prod.fst) (.table entries') = .ok members' ∧
      members.Respelled fields members' := by
  obtain ⟨once, rfl⟩ := (ofDocument_table_iff surplus _ entries members).mp read
  refine ⟨_, (ofDocument_table_iff surplus _ entries' _).mpr ⟨?_, rfl⟩, rfl, ?_⟩
  · intro name member
    obtain ⟨field, given, rfl⟩ := List.mem_map.mp member
    exact (kept field given (once field.1 member)).1
  · intro field member
    rw [value?_ofEntries, value?_ofEntries]
    exact (kept field member (once field.1 (List.mem_map_of_mem member))).2

/-- A table with the items of a list at its fields has the members of the list, or lacks a null. -/
theorem ofDocument_positions {surplus : Surplus} {fields : List (String × Shape)}
    {entries : List (String × Document)} {items : List Document} {members : Members}
    (distinct : (fields.map Prod.fst).Nodup)
    (placed : List.Forall₂ (Shape.Placed entries) fields items)
    (read : ofDocument surplus (fields.map Prod.fst) (.table entries) = .ok members) :
    ∃ members', ofDocument surplus (fields.map Prod.fst) (.list items) = .ok members' ∧
      members.Respelled fields members' := by
  obtain ⟨once, rfl⟩ := (ofDocument_table_iff surplus _ entries members).mp read
  have many : items.length = (fields.map Prod.fst).length := by
    rw [List.length_map, placed.length_eq]
  refine ⟨_, (ofDocument_list_iff surplus _ items _).mpr ⟨fun _ => Nat.le_of_eq many, rfl⟩, rfl, ?_⟩
  intro field member
  obtain ⟨item, found, here⟩ := lookup_zip_of_forall₂ distinct placed member
  rw [value?_ofEntries, value?_ofItems, found, lookup_eq_head?_filter]
  cases here with
  | given key shape value given =>
    rw [filter_key_eq_of_mem (once key (List.mem_map_of_mem member)) given]
    exact .same _
  | absent key content missing =>
    rw [filter_key_eq_nil missing]
    exact .filled rfl

theorem zip_names_append {first last : List (String × Shape)} {before : List Document}
    (aligned : first.length = before.length) (key : String) (shape : Shape) (value : Document)
    (after : List Document) :
    ((first ++ (key, shape) :: last).map Prod.fst).zip (before ++ value :: after) =
      (first.map Prod.fst).zip before ++ (key, value) :: (last.map Prod.fst).zip after := by
  rw [List.map_append, List.zip_append (by simpa using aligned)]
  rfl

theorem ofDocument_position {surplus : Surplus} {first last : List (String × Shape)}
    {before after : List Document} {key : String} {shape : Shape} {value value' : Document}
    {members : Members}
    (distinct : ((first ++ (key, shape) :: last).map Prod.fst).Nodup)
    (aligned : first.length = before.length) (inner : shape.Respelled value value')
    (read : ofDocument surplus ((first ++ (key, shape) :: last).map Prod.fst)
      (.list (before ++ value :: after)) = .ok members) :
    ∃ members', ofDocument surplus ((first ++ (key, shape) :: last).map Prod.fst)
      (.list (before ++ value' :: after)) = .ok members' ∧
      members.Respelled (first ++ (key, shape) :: last) members' := by
  obtain ⟨fits, rfl⟩ := (ofDocument_list_iff surplus _ _ members).mp read
  refine ⟨_, (ofDocument_list_iff surplus _ _ _).mpr ⟨by simpa using fits, rfl⟩, rfl, ?_⟩
  intro field member
  rw [value?_ofItems, value?_ofItems, zip_names_append aligned, zip_names_append aligned,
    List.lookup_append, List.lookup_append]
  cases ((first.map Prod.fst).zip before).lookup field.1 with
  | some found => exact .same _
  | none =>
    rw [Option.none_or, Option.none_or, List.lookup_cons, List.lookup_cons]
    by_cases same : field.1 = key
    · have here : (key, shape) ∈ first ++ (key, shape) :: last := by simp
      have shapes : field.2 = shape := eq_of_mem_of_key_eq distinct (same ▸ member) here
      rw [same, beq_self_eq_true, shapes]
      exact .changed inner
    · rw [beq_false_of_ne same]
      exact .same _

theorem fieldRespelled_of_filter_eq (shape : Shape) {key : String}
    {entries entries' : List (String × Document)}
    (same : entries.filter (·.1 == key) = entries'.filter (·.1 == key)) :
    shape.FieldRespelled (entries.lookup key) (entries'.lookup key) := by
  rw [lookup_eq_head?_filter, lookup_eq_head?_filter, same]
  exact .same _

/-- A change of spelling of a record changes its members one by one at most. -/
theorem ofDocument_respelled {surplus : Surplus} {fields : List (String × Shape)}
    {document document' : Document} {members : Members} (distinct : (fields.map Prod.fst).Nodup)
    (respelled : (Shape.record fields).Respelled document document')
    (read : ofDocument surplus (fields.map Prod.fst) document = .ok members) :
    ∃ members', ofDocument surplus (fields.map Prod.fst) document' = .ok members' ∧
      members.Respelled fields members' := by
  cases respelled with
  | permuted permuted =>
    refine ofDocument_table_respelled (fun field _ once => ?_) read
    have same := eq_of_perm_of_length_le_one (permuted.filter (·.1 == field.1)) once
    exact ⟨same ▸ once, fieldRespelled_of_filter_eq field.2 same⟩
  | @unknown _ before after key value foreign =>
    refine ofDocument_table_respelled (fun field member once => ?_) read
    have same : (before ++ after).filter (·.1 == field.1) =
        (before ++ (key, value) :: after).filter (·.1 == field.1) := by
      simp [Ne.symm (foreign field member)]
    exact ⟨same ▸ once, fieldRespelled_of_filter_eq field.2 same⟩
  | @field _ before after key shape given value value' inner =>
    refine ofDocument_table_respelled (fun field member once => ?_) read
    by_cases here : field.1 = key
    · have shapes : field.2 = shape := eq_of_mem_of_key_eq distinct (here ▸ member) given
      rw [here] at once ⊢
      obtain ⟨found, found'⟩ := filter_key_replaced value' once
      rw [lookup_eq_head?_filter, lookup_eq_head?_filter, found, found', shapes]
      exact ⟨Nat.le_refl 1, .changed inner⟩
    · have same : (before ++ (key, value) :: after).filter (·.1 == field.1) =
          (before ++ (key, value') :: after).filter (·.1 == field.1) := by
        simp [Ne.symm here]
      exact ⟨same ▸ once, fieldRespelled_of_filter_eq field.2 same⟩
  | positions placed => exact ofDocument_positions distinct placed read
  | position first last before after aligned inner =>
    exact ofDocument_position distinct aligned inner read

end Members

end ListQuery
