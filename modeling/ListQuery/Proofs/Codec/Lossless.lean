import ListQuery.Http
import ListQuery.Proofs.Codec.Shape
import ListQuery.Settings.Basic
import Mathlib.Data.List.Induction

/-!
# Lossless: what is written is read back

Every value is read back from the tree that it is written as (`Lossless.decode_encode`). An option
needs that its content is never written as null (`Present`).
-/
namespace ListQuery

class Lossless (α : Type) [Codec α] : Prop where
  decode_encode (surplus : Surplus) (value : α) : decode surplus (encode value) = .ok value

export Lossless (decode_encode)

attribute [simp] Lossless.decode_encode

/-- No two values are written alike. -/
theorem encode_injective {α : Type} [Codec α] [Lossless α] {first second : α}
    (same : encode first = encode second) : first = second := by
  have read := decode_encode .refused first
  rw [same, decode_encode] at read
  cases read
  rfl

/-- No value is written as null, which stands for the lack of a value. -/
class Present (α : Type) [Codec α] : Prop where
  encode_ne_null (value : α) : encode value ≠ .null

export Present (encode_ne_null)

/-! ## Parts of values -/

instance : Lossless String where
  decode_encode _ _ := rfl

instance : Present String where
  encode_ne_null _ := nofun

instance : Lossless UInt64 where
  decode_encode surplus value := by
    have fits := value.toNat_lt_size
    change (if _ then _ else _) = _
    rw [if_pos (by omega), Int.toNat_natCast, UInt64.ofNat_toNat]

instance : Present UInt64 where
  encode_ne_null _ := nofun

instance : Lossless UInt16 where
  decode_encode surplus value := by
    have fits := value.toNat_lt_size
    change (if _ then _ else _) = _
    rw [if_pos (by omega), Int.toNat_natCast, UInt16.ofNat_toNat]

instance : Lossless Int64 where
  decode_encode surplus value := by
    change (if _ then _ else _) = _
    rw [if_pos ⟨value.le_toInt, value.toInt_le⟩, Int64.ofInt_toInt]

instance : Present Int64 where
  encode_ne_null _ := nofun

instance : Lossless Rule where
  decode_encode _ rule := by cases rule <;> rfl

instance : Lossless Direction where
  decode_encode _ direction := by cases direction <;> rfl

instance : Present Direction where
  encode_ne_null _ := nofun

theorem decode_option_of_ne_null {α : Type} [Codec α] (surplus : Surplus) {document : Document}
    (present : document ≠ .null) :
    (decode surplus document : Decoded (Option α)) = some <$> decode surplus document := by
  cases document with
  | null => exact absurd rfl present
  | _ => rfl

instance {α : Type} [Codec α] [Lossless α] [Present α] : Lossless (Option α) where
  decode_encode surplus value := by
    cases value with
    | none => rfl
    | some value =>
      change decode surplus (encode value) = _
      rw [decode_option_of_ne_null surplus (encode_ne_null value), decode_encode, Decoded.map_ok]

@[simp] theorem decode_encode_some {α : Type} [Codec α] [Lossless α] [Present α]
    (surplus : Surplus) (value : α) : decode surplus (encode value) = .ok (some value) :=
  decode_encode surplus (some value)

theorem decodeItems_encode {α : Type} [Codec α] [Lossless α] (surplus : Surplus) (position : Nat)
    (values : List α) : decodeItems (decode surplus) position (values.map encode) = .ok values := by
  induction values generalizing position with
  | nil => rfl
  | cons value rest ih =>
    rw [List.map_cons, decodeItems, decode_encode, ih]
    rfl

instance {α : Type} [Codec α] [Lossless α] : Lossless (List α) where
  decode_encode surplus values := decodeItems_encode surplus 0 values

instance {α : Type} [Codec α] [Lossless α] : Lossless (AllowList α) where
  decode_encode surplus list := by
    change AllowList.mk <$> decode surplus (encode list.entries) = _
    rw [decode_encode, Decoded.map_ok]

/-! ## Records -/

theorem length_filter_key_le_one {α : Type} {entries : List (String × α)}
    (distinct : (entries.map Prod.fst).Nodup) (key : String) :
    (entries.filter (·.1 == key)).length ≤ 1 := by
  have counted := List.nodup_iff_count_le_one.mp distinct key
  rwa [List.count, List.countP_map, List.countP_eq_length_filter] at counted

/-- A table whose keys differ is read through its entries. -/
theorem decode_table {α : Type} {surplus : Surplus} {names : List String}
    {entries : List (String × Document)} {read : Members → Decoded α} {value : α}
    (distinct : (entries.map Prod.fst).Nodup)
    (done : read (.ofEntries surplus entries) = .ok value) :
    (Members.ofDocument surplus names (.table entries)).andThen read = .ok value := by
  have once (name : String) (_ : name ∈ names) := length_filter_key_le_one distinct name
  rw [(Members.ofDocument_table_iff surplus names entries _).mpr ⟨once, rfl⟩]
  exact done

@[simp] theorem Decoded.within_ok {α : Type} (step : PathStep) (value : α) :
    (Decoded.ok value).within step = .ok value := rfl

namespace Members

variable {α : Type} [Codec α]

@[simp] theorem required_ofEntries (surplus : Surplus) (entries : List (String × Document))
    (field : String) :
    (ofEntries surplus entries).required field =
      match entries.lookup field with
      | some document => ((decode surplus document).within (.key field) : Decoded α)
      | none => .fault [] := by
  rw [required, lookup_ofEntries]
  cases entries.lookup field with
  | none => rfl
  | some document => rfl

@[simp] theorem withDefault_ofEntries (surplus : Surplus) (entries : List (String × Document))
    (field : String) (default : α) :
    (ofEntries surplus entries).withDefault field default =
      match entries.lookup field with
      | some document => (decode surplus document).within (.key field)
      | none => .ok default := by
  rw [withDefault, lookup_ofEntries]
  cases entries.lookup field with
  | none => rfl
  | some document => rfl

end Members

instance : Lossless FilterPolicy where
  decode_encode surplus policy := decode_table (by simp) (by simp [List.lookup_cons])

instance : Lossless SortDefault where
  decode_encode surplus value := decode_table (by simp) (by simp [List.lookup_cons])

instance : Present SortDefault where
  encode_ne_null _ := nofun

instance : Lossless SortPolicy where
  decode_encode surplus policy := decode_table (by simp) (by simp [List.lookup_cons])

instance : Lossless LimitPolicy where
  decode_encode surplus policy := decode_table (by simp) (by simp [List.lookup_cons])

instance : Lossless Policy where
  decode_encode surplus policy := decode_table (by simp) (by simp [List.lookup_cons])

instance : Lossless Criterion where
  decode_encode surplus criterion := by
    obtain ⟨property, rule, value⟩ := criterion
    cases value with
    | none => exact decode_table (by simp) (by simp [List.lookup_cons])
    | some value => exact decode_table (by simp) (by simp [List.lookup_cons])

instance : Lossless SortKey where
  decode_encode surplus key := decode_table (by simp) (by simp [List.lookup_cons])

instance : Present SortKey where
  encode_ne_null _ := nofun

instance : Lossless Window where
  decode_encode surplus window := decode_table (by simp) (by simp [List.lookup_cons])

instance : Lossless ParameterNames where
  decode_encode surplus names := decode_table (by simp) (by simp [List.lookup_cons])

instance : Lossless Directives where
  decode_encode surplus directives := decode_table (by simp) (by simp [List.lookup_cons])

instance : Lossless PageSummary where
  decode_encode surplus summary := decode_table (by simp) (by simp [List.lookup_cons])

instance {α : Type} [Codec α] [Lossless α] : Lossless (Envelope α) where
  decode_encode surplus envelope := decode_table (by simp) (by simp [List.lookup_cons])

instance : Lossless Http.ErrorBody where
  decode_encode surplus body := by
    obtain ⟨error, code, status⟩ := body
    cases code with
    | none => exact decode_table (by simp) (by simp [List.lookup_cons])
    | some code => exact decode_table (by simp) (by simp [List.lookup_cons])

/-! ## Settings -/

theorem decodeEntries_encode {α : Type} [Codec α] [Lossless α] (surplus : Surplus)
    (entries : List (String × α)) :
    decodeEntries (decode surplus) (entries.map fun entry => (entry.1, encode entry.2)) =
      .ok entries := by
  induction entries with
  | nil => rfl
  | cons entry rest ih =>
    rw [List.map_cons, decodeEntries, decode_encode, ih]
    rfl

theorem setEntry_eq_append {α : Type} {key : String} (value : α) {entries : List (String × α)}
    (last : ∀ entry ∈ entries, entry.1 < key) :
    setEntry key value entries = entries ++ [(key, value)] := by
  induction entries with
  | nil => rfl
  | cons entry rest ih =>
    have before := last entry List.mem_cons_self
    rw [setEntry, if_neg (String.lt_asymm before), if_neg (String.ne_of_lt before).symm,
      ih fun later member => last later (List.mem_cons_of_mem entry member)]
    rfl

/-- Entries that come in the order of their names are kept as they are. -/
theorem Endpoints.entries_ofList {entries : List (String × Policy)} (ordered : Ordered entries) :
    (ofList entries).entries = entries := by
  induction entries using List.reverseRecOn with
  | nil => rfl
  | append_singleton before entry ih =>
    obtain ⟨ordered, -, last⟩ := List.pairwise_append.mp ordered
    have kept : (ofList (before ++ [entry])).entries =
        setEntry entry.1 entry.2 (ofList before).entries := by
      rw [ofList, List.foldl_append]
      rfl
    rw [kept, ih ordered, setEntry_eq_append entry.2 fun earlier member =>
      last earlier member entry List.mem_cons_self]

theorem Endpoints.ofList_entries (endpoints : Endpoints) :
    ofList endpoints.entries = endpoints := by
  obtain ⟨entries, ordered⟩ := endpoints
  have kept := entries_ofList ordered
  cases made : ofList entries with
  | mk entries' ordered' =>
    rw [made] at kept
    cases kept
    rfl

instance : Lossless Endpoints where
  decode_encode surplus endpoints := by
    change Endpoints.ofList <$> decodeEntries (decode surplus) _ = _
    rw [decodeEntries_encode, Decoded.map_ok, Endpoints.ofList_entries]

instance : Lossless Settings where
  decode_encode surplus settings := decode_table (by simp) (by simp [List.lookup_cons])

end ListQuery
