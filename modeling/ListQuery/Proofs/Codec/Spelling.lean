import ListQuery.Proofs.Codec.Lossless
import Mathlib.Logic.Relation

/-!
# Spelling: reading does not depend on how a tree is spelled

Every type that is read from a tree has a shape, and a tree that reads as a value still reads as it
after a change of spelling (`Spelling.decode_respelled`). The law is passed on from the parts of a
value to the value: through options, lists and tables, and through records field by field.
-/
namespace ListQuery

/-- A codec whose reader takes every spelling that the shape allows for the same value. -/
class Spelling (α : Type) [Codec α] where
  shape : Shape
  decode_respelled {surplus : Surplus} {document document' : Document} {value : α}
    (respelled : shape.Respelled document document') (read : decode surplus document = .ok value) :
    decode surplus document' = .ok value

export Spelling (decode_respelled)

/-! ## Records -/

@[simp] theorem Decoded.within_eq_ok_iff {α : Type} (step : PathStep) (outcome : Decoded α)
    (value : α) : outcome.within step = .ok value ↔ outcome = .ok value := by
  cases outcome with
  | ok _ => exact Iff.rfl
  | fault _ => exact ⟨nofun, nofun⟩

theorem Decoded.map_eq_ok_iff {α β : Type} (f : α → β) (outcome : Decoded α) (value : β) :
    f <$> outcome = .ok value ↔ ∃ inner, outcome = .ok inner ∧ f inner = value := by
  cases outcome with
  | ok inner => simp
  | fault path => exact ⟨nofun, nofun⟩

theorem Decoded.seq_eq_ok_iff {α β : Type} (f : Decoded (α → β)) (outcome : Decoded α) (value : β) :
    f <*> outcome = .ok value ↔
      ∃ g inner, f = .ok g ∧ outcome = .ok inner ∧ g inner = value := by
  cases f with
  | ok g =>
    cases outcome with
    | ok inner => simp
    | fault path => exact ⟨nofun, nofun⟩
  | fault path =>
    cases outcome with
    | ok inner => exact ⟨nofun, nofun⟩
    | fault path => exact ⟨nofun, nofun⟩

theorem Decoded.map_within_seq_eq_ok_iff {α β γ : Type} (f : α → β → γ) (step : PathStep)
    (first : Decoded α) (rest : Decoded β) (value : γ) :
    f <$> first.within step <*> rest = .ok value ↔
      ∃ head tail, first = .ok head ∧ rest = .ok tail ∧ f head tail = value := by
  simp only [Decoded.seq_eq_ok_iff, Decoded.map_eq_ok_iff, Decoded.within_eq_ok_iff]
  constructor
  · intro read
    obtain ⟨_, tail, ⟨head, here, rfl⟩, later, same⟩ := read
    exact ⟨head, tail, here, later, same⟩
  · intro read
    obtain ⟨head, tail, here, later, same⟩ := read
    exact ⟨f head, tail, ⟨head, here, rfl⟩, later, same⟩

namespace Members

variable {α : Type} [Codec α]

theorem required_eq_ok_iff (members : Members) (field : String) (value : α) :
    members.required field = .ok value ↔
      ∃ document, members.value? field = some document ∧
        decode members.surplus document = .ok value := by
  unfold required value?
  cases members.entries.lookup field with
  | none => simp
  | some found => simp

theorem withDefault_eq_ok_iff (members : Members) (field : String) (default value : α) :
    members.withDefault field default = .ok value ↔
      (members.value? field = none ∧ value = default) ∨
      ∃ document, members.value? field = some document ∧
        decode members.surplus document = .ok value := by
  unfold withDefault value?
  cases members.entries.lookup field with
  | none => simp [eq_comm]
  | some found => simp

/-- What is put together from members comes out the same in every spelling of the record. -/
structure Settled {α : Type} (fields : List (String × Shape)) (read : Members → Decoded α) :
    Prop where
  read_eq {members members' : Members} {value : α} (respelled : members.Respelled fields members')
    (done : read members = .ok value) : read members' = .ok value

namespace Settled

variable {β : Type} {fields : List (String × Shape)}

omit [Codec α] in
theorem map {read : Members → Decoded α} (f : α → β) (settled : Settled fields read) :
    Settled fields fun members => f <$> read members where
  read_eq {members members' value} respelled done := by
    obtain ⟨inner, found, same⟩ := (Decoded.map_eq_ok_iff f (read members) value).mp done
    exact (Decoded.map_eq_ok_iff f (read members') value).mpr
      ⟨inner, settled.read_eq respelled found, same⟩

omit [Codec α] in
theorem seq {function : Members → Decoded (α → β)} {read : Members → Decoded α}
    (settledFunction : Settled fields function) (settled : Settled fields read) :
    Settled fields fun members => function members <*> read members where
  read_eq {members members' value} respelled done := by
    obtain ⟨f, inner, made, found, same⟩ :=
      (Decoded.seq_eq_ok_iff (function members) (read members) value).mp done
    exact (Decoded.seq_eq_ok_iff (function members') (read members') value).mpr
      ⟨f, inner, settledFunction.read_eq respelled made, settled.read_eq respelled found, same⟩

variable {field : String} [Spelling α]

theorem value?_respelled {members members' : Members} {document : Document} {value : α}
    (respelled : members.Respelled fields members') (member : (field, Spelling.shape α) ∈ fields)
    (given : members.value? field = some document)
    (read : decode members.surplus document = .ok value) :
    ∃ document', members'.value? field = some document' ∧
      decode members'.surplus document' = .ok value := by
  have change := respelled.field (field, Spelling.shape α) member
  rw [respelled.surplus_eq] at read
  generalize members'.value? field = given' at change
  rw [given] at change
  cases change with
  | same => exact ⟨document, rfl, read⟩
  | changed inner => exact ⟨_, rfl, decode_respelled inner read⟩

theorem required (member : (field, Spelling.shape α) ∈ fields) :
    Settled fields fun members => (members.required field : Decoded α) where
  read_eq {members members' value} respelled done := by
    obtain ⟨document, given, read⟩ := (required_eq_ok_iff members field value).mp done
    exact (required_eq_ok_iff members' field value).mpr
      (value?_respelled respelled member given read)

/-- Where a null can turn up, the default has to be what it stands for. -/
theorem withDefault_of_filling {default : α} (member : (field, Spelling.shape α) ∈ fields)
    (filling : (Spelling.shape α).isOptional = true →
      ∀ surplus, decode surplus .null = .ok default) :
    Settled fields fun members => members.withDefault field default where
  read_eq {members members' value} respelled done := by
    refine (withDefault_eq_ok_iff members' field default value).mpr ?_
    rcases (withDefault_eq_ok_iff members field default value).mp done with
      ⟨absent, rfl⟩ | ⟨document, given, read⟩
    · have change := respelled.field (field, Spelling.shape α) member
      generalize members'.value? field = given' at change ⊢
      rw [absent] at change
      cases change with
      | same => exact .inl ⟨rfl, rfl⟩
      | filled optional => exact .inr ⟨.null, rfl, filling optional _⟩
    · exact .inr (value?_respelled respelled member given read)

theorem withDefault {default : α} (member : (field, Spelling.shape α) ∈ fields)
    (rigid : (Spelling.shape α).isOptional = false) :
    Settled fields fun members => members.withDefault field default :=
  withDefault_of_filling member fun optional => nomatch rigid.symm.trans optional

end Settled

end Members

theorem decode_record_respelled {α : Type} {fields : List (String × Shape)}
    {read : Members → Decoded α} (distinct : (fields.map Prod.fst).Nodup)
    (settled : Members.Settled fields read) {surplus : Surplus} {document document' : Document}
    {value : α} (respelled : (Shape.record fields).Respelled document document')
    (done : (Members.ofDocument surplus (fields.map Prod.fst) document).andThen read = .ok value) :
    (Members.ofDocument surplus (fields.map Prod.fst) document').andThen read = .ok value := by
  cases made : Members.ofDocument surplus (fields.map Prod.fst) document with
  | ok members =>
    rw [made] at done
    obtain ⟨members', made', change⟩ := Members.ofDocument_respelled distinct respelled made
    rw [made']
    exact settled.read_eq change done
  | fault path =>
    rw [made] at done
    cases done

/-! ## Parts of values -/

instance : Spelling String where
  shape := .plain
  decode_respelled respelled := nomatch respelled

instance : Spelling UInt64 where
  shape := .plain
  decode_respelled respelled := nomatch respelled

instance : Spelling UInt16 where
  shape := .plain
  decode_respelled respelled := nomatch respelled

instance : Spelling Int64 where
  shape := .plain
  decode_respelled respelled := nomatch respelled

/-- A token is read as the name that it stands for. -/
theorem decodeName_respelled {α : Type} {ofName? : String → Option α}
    {tokens : List (String × String)}
    (agree : ∀ names ∈ tokens, ofName? names.2 = ofName? names.1) {document document' : Document}
    {value : α} (respelled : (Shape.name tokens).Respelled document document')
    (read : decodeName ofName? document = .ok value) :
    decodeName ofName? document' = .ok value := by
  cases respelled with
  | token member =>
    rw [decodeName] at read ⊢
    rw [agree _ member]
    exact read

instance : Spelling Rule where
  shape := .name (Rule.all.map fun rule => (rule.name, rule.token))
  decode_respelled := decodeName_respelled (by decide)

instance : Spelling Direction where
  shape := .name (Direction.all.map fun direction => (direction.name, direction.token))
  decode_respelled := decodeName_respelled (by decide)

instance {α : Type} [Codec α] [Spelling α] : Spelling (Option α) where
  shape := .optional (Spelling.shape α)
  decode_respelled := by
    intro surplus document document' value respelled read
    cases respelled with
    | content inner =>
      rw [decode_option_of_ne_null surplus inner.ne_null.1] at read
      obtain ⟨content, found, same⟩ := (Decoded.map_eq_ok_iff some _ value).mp read
      rw [decode_option_of_ne_null surplus inner.ne_null.2, decode_respelled inner found, ← same]
      rfl

theorem Members.Settled.withNone {α : Type} [Codec α] [Spelling α]
    {fields : List (String × Shape)} {field : String}
    (member : (field, Spelling.shape (Option α)) ∈ fields) :
    Settled fields fun members => members.withDefault field (none : Option α) :=
  withDefault_of_filling member fun _ _ => rfl

theorem decodeItems_cons_eq_ok_iff {α : Type} (decodeItem : Document → Decoded α) (position : Nat)
    (item : Document) (rest : List Document) (values : List α) :
    decodeItems decodeItem position (item :: rest) = .ok values ↔
      ∃ value later, decodeItem item = .ok value ∧
        decodeItems decodeItem (position + 1) rest = .ok later ∧ value :: later = values := by
  rw [decodeItems, Decoded.map_within_seq_eq_ok_iff]

theorem decodeItems_respelled {α : Type} {decodeItem : Document → Decoded α}
    {document document' : Document}
    (kept : ∀ value, decodeItem document = .ok value → decodeItem document' = .ok value)
    (before after : List Document) {position : Nat} {values : List α}
    (read : decodeItems decodeItem position (before ++ document :: after) = .ok values) :
    decodeItems decodeItem position (before ++ document' :: after) = .ok values := by
  induction before generalizing position values with
  | nil =>
    obtain ⟨value, later, here, rest, same⟩ := (decodeItems_cons_eq_ok_iff _ _ _ _ _).mp read
    exact (decodeItems_cons_eq_ok_iff _ _ _ _ _).mpr ⟨value, later, kept value here, rest, same⟩
  | cons item before ih =>
    obtain ⟨value, later, here, rest, same⟩ := (decodeItems_cons_eq_ok_iff _ _ _ _ _).mp read
    exact (decodeItems_cons_eq_ok_iff _ _ _ _ _).mpr ⟨value, later, here, ih rest, same⟩

instance {α : Type} [Codec α] [Spelling α] : Spelling (List α) where
  shape := .list (Spelling.shape α)
  decode_respelled := by
    intro surplus document document' values respelled read
    cases respelled with
    | item before after inner =>
      exact decodeItems_respelled (fun _ found => decode_respelled inner found) before after read

instance {α : Type} [Codec α] [Spelling α] : Spelling (AllowList α) where
  shape := .list (Spelling.shape α)
  decode_respelled := by
    intro surplus document document' value respelled read
    obtain ⟨entries, found, same⟩ := (Decoded.map_eq_ok_iff AllowList.mk _ value).mp read
    have found' : decode surplus document' = .ok entries := decode_respelled respelled found
    exact (Decoded.map_eq_ok_iff AllowList.mk _ value).mpr ⟨entries, found', same⟩

/-! ## Policies -/

instance : Spelling FilterPolicy where
  shape := .record [
    ("allowed_fields", Spelling.shape (AllowList String)),
    ("allowed_rules", Spelling.shape (AllowList Rule))]
  decode_respelled :=
    decode_record_respelled (by decide)
      (.seq (.map FilterPolicy.mk (.withDefault (by simp) rfl)) (.withDefault (by simp) rfl))

instance : Spelling SortDefault where
  shape := .record [
    ("property", Spelling.shape (Option String)),
    ("direction", Spelling.shape (Option Direction))]
  decode_respelled :=
    decode_record_respelled (by decide)
      (.seq (.map SortDefault.mk (.withNone (by simp))) (.withNone (by simp)))

instance : Spelling SortPolicy where
  shape := .record [
    ("allowed_fields", Spelling.shape (AllowList String)),
    ("default", Spelling.shape (Option SortDefault))]
  decode_respelled :=
    decode_record_respelled (by decide)
      (.seq (.map SortPolicy.mk (.withDefault (by simp) rfl)) (.withNone (by simp)))

instance : Spelling LimitPolicy where
  shape := .record [
    ("min", Spelling.shape (Option Int64)),
    ("max", Spelling.shape (Option Int64)),
    ("default", Spelling.shape (Option UInt64))]
  decode_respelled :=
    decode_record_respelled (by decide)
      (.seq (.seq (.map LimitPolicy.mk (.withNone (by simp))) (.withNone (by simp)))
        (.withNone (by simp)))

instance : Spelling Policy where
  shape := .record [
    ("filters", Spelling.shape FilterPolicy),
    ("sort", Spelling.shape SortPolicy),
    ("limit", Spelling.shape LimitPolicy)]
  decode_respelled :=
    decode_record_respelled (by decide)
      (.seq (.seq (.map Policy.mk (.withDefault (by simp) rfl)) (.withDefault (by simp) rfl))
        (.withDefault (by simp) rfl))

/-! ## Requests and answers -/

instance : Spelling Criterion where
  shape := .record [
    ("property", Spelling.shape String),
    ("rule", Spelling.shape Rule),
    ("value", Spelling.shape (Option String))]
  decode_respelled :=
    decode_record_respelled (by decide)
      (.seq (.seq (.map Criterion.mk (.required (by simp))) (.required (by simp)))
        (.withNone (by simp)))

instance : Spelling SortKey where
  shape := .record [
    ("property", Spelling.shape String),
    ("direction", Spelling.shape Direction)]
  decode_respelled :=
    decode_record_respelled (by decide)
      (.seq (.map SortKey.mk (.required (by simp))) (.required (by simp)))

instance : Spelling Window where
  shape := .record [
    ("page", Spelling.shape UInt64),
    ("limit", Spelling.shape UInt64),
    ("size", Spelling.shape UInt64),
    ("offset", Spelling.shape UInt64)]
  decode_respelled :=
    decode_record_respelled (by decide)
      (.seq (.seq (.seq (.map Window.mk (.required (by simp))) (.required (by simp)))
        (.required (by simp))) (.required (by simp)))

instance : Spelling ParameterNames where
  shape := .record [
    ("filters", Spelling.shape String),
    ("sort", Spelling.shape String),
    ("page", Spelling.shape String),
    ("limit", Spelling.shape String)]
  decode_respelled :=
    decode_record_respelled (by decide)
      (.seq (.seq (.seq (.map ParameterNames.mk (.withDefault (by simp) rfl))
        (.withDefault (by simp) rfl)) (.withDefault (by simp) rfl)) (.withDefault (by simp) rfl))

instance : Spelling Directives where
  shape := .record [
    ("filters", Spelling.shape (List Criterion)),
    ("sort", Spelling.shape (Option SortKey)),
    ("pagination", Spelling.shape Window)]
  decode_respelled :=
    decode_record_respelled (by decide)
      (.seq (.seq (.map Directives.mk (.required (by simp))) (.withNone (by simp)))
        (.required (by simp)))

instance : Spelling PageSummary where
  shape := .record [
    ("total", Spelling.shape UInt64),
    ("page", Spelling.shape UInt64),
    ("size", Spelling.shape UInt64)]
  decode_respelled :=
    decode_record_respelled (by decide)
      (.seq (.seq (.map PageSummary.mk (.required (by simp))) (.required (by simp)))
        (.required (by simp)))

instance {α : Type} [Codec α] [Spelling α] : Spelling (Envelope α) where
  shape := .record [
    ("results", Spelling.shape (List α)),
    ("meta", Spelling.shape PageSummary)]
  decode_respelled :=
    decode_record_respelled (by simp)
      (.seq (.map Envelope.mk (.required (by simp))) (.required (by simp)))

instance : Spelling Http.ErrorBody where
  shape := .record [
    ("error", Spelling.shape String),
    ("code", Spelling.shape (Option String)),
    ("status", Spelling.shape UInt16)]
  decode_respelled :=
    decode_record_respelled (by decide)
      (.seq (.seq (.map Http.ErrorBody.mk (.required (by simp))) (.withNone (by simp)))
        (.required (by simp)))

/-! ## Settings -/

theorem decodeEntries_cons_eq_ok_iff {α : Type} (decodeValue : Document → Decoded α) (key : String)
    (document : Document) (rest : List (String × Document)) (entries : List (String × α)) :
    decodeEntries decodeValue ((key, document) :: rest) = .ok entries ↔
      ∃ value later, decodeValue document = .ok value ∧
        decodeEntries decodeValue rest = .ok later ∧ (key, value) :: later = entries := by
  rw [decodeEntries, Decoded.map_within_seq_eq_ok_iff]

theorem decodeEntries_respelled {α : Type} {decodeValue : Document → Decoded α}
    {document document' : Document}
    (kept : ∀ value, decodeValue document = .ok value → decodeValue document' = .ok value)
    (before after : List (String × Document)) {key : String} {entries : List (String × α)}
    (read : decodeEntries decodeValue (before ++ (key, document) :: after) = .ok entries) :
    decodeEntries decodeValue (before ++ (key, document') :: after) = .ok entries := by
  induction before generalizing entries with
  | nil =>
    obtain ⟨value, later, here, rest, same⟩ := (decodeEntries_cons_eq_ok_iff _ _ _ _ _).mp read
    exact (decodeEntries_cons_eq_ok_iff _ _ _ _ _).mpr
      ⟨value, later, kept value here, rest, same⟩
  | cons entry before ih =>
    obtain ⟨value, later, here, rest, same⟩ := (decodeEntries_cons_eq_ok_iff _ _ _ _ _).mp read
    exact (decodeEntries_cons_eq_ok_iff _ _ _ _ _).mpr ⟨value, later, here, ih rest, same⟩

instance : Spelling Endpoints where
  shape := .map (Spelling.shape Policy)
  decode_respelled := by
    intro surplus document document' endpoints respelled read
    cases respelled with
    | entry before after key inner =>
      obtain ⟨entries, found, same⟩ := (Decoded.map_eq_ok_iff _ _ endpoints).mp read
      refine (Decoded.map_eq_ok_iff _ _ endpoints).mpr ⟨entries, ?_, same⟩
      exact decodeEntries_respelled (fun _ value => decode_respelled inner value) before after found

instance : Spelling Settings where
  shape := .record [
    ("log_level", Spelling.shape String),
    ("parameters", Spelling.shape ParameterNames),
    ("endpoints", Spelling.shape Endpoints)]
  decode_respelled :=
    decode_record_respelled (by decide)
      (.seq (.seq (.map Settings.mk (.withDefault (by simp) rfl)) (.withDefault (by simp) rfl))
        (.withDefault (by simp) rfl))

end ListQuery
