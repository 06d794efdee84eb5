import ListQuery.Document.Decoded

/-!
How values are written as trees and read back. A record is written as a table whose keys are in
alphabetical order, and read from a table or from the list of its fields in their own order.
-/
namespace ListQuery

/-- What becomes of list elements after the last field of a record. -/
inductive Surplus where
  | refused | ignored
  deriving DecidableEq, Repr

class Codec (α : Type) where
  encode : α → Document
  decode : Surplus → Document → Decoded α

export Codec (encode decode)

/-- The parts of a tree that is read as a record. -/
structure Members where
  surplus : Surplus
  entries : List (String × PathStep × Document)

namespace Members

/-- A field that is given twice is a fault; entries that are no fields do not count. -/
def ofDocument (surplus : Surplus) (fields : List String) : Document → Decoded Members
  | .table entries =>
    if fields.any fun field => 1 < (entries.filter (·.1 == field)).length then .fault []
    else .ok ⟨surplus, entries.map fun entry => (entry.1, .key entry.1, entry.2)⟩
  | .list items =>
    if surplus = .refused ∧ fields.length < items.length then .fault [.position fields.length]
    else
      .ok ⟨surplus, (fields.zip items.zipIdx).map fun entry =>
        (entry.1, .position entry.2.2, entry.2.1)⟩
  | _ => .fault []

variable {α : Type} [Codec α]

def required (members : Members) (field : String) : Decoded α :=
  match members.entries.lookup field with
  | some (step, value) => (decode members.surplus value).within step
  | none => .fault []

/-- A missing field takes its default. -/
def withDefault (members : Members) (field : String) (default : α) : Decoded α :=
  match members.entries.lookup field with
  | some (step, value) => (decode members.surplus value).within step
  | none => .ok default

end Members

def decodeItems {α : Type} (decodeItem : Document → Decoded α) (position : Nat) :
    List Document → Decoded (List α)
  | [] => .ok []
  | item :: rest =>
    List.cons <$> (decodeItem item).within (.position position) <*>
      decodeItems decodeItem (position + 1) rest

instance : Codec String where
  encode := .text
  decode _
    | .text value => .ok value
    | _ => .fault []

instance : Codec UInt64 where
  encode value := .int value.toNat
  decode _
    | .int value =>
      if 0 ≤ value ∧ value < UInt64.size then .ok (UInt64.ofNat value.toNat) else .fault []
    | _ => .fault []

instance : Codec UInt16 where
  encode value := .int value.toNat
  decode _
    | .int value =>
      if 0 ≤ value ∧ value < UInt16.size then .ok (UInt16.ofNat value.toNat) else .fault []
    | _ => .fault []

instance : Codec Int64 where
  encode value := .int value.toInt
  decode _
    | .int value =>
      if Int64.minValue.toInt ≤ value ∧ value ≤ Int64.maxValue.toInt then .ok (Int64.ofInt value)
      else .fault []
    | _ => .fault []

/-- Any tree stands for itself, if all of it can be read. -/
instance : Codec Document where
  encode := id
  decode _ document := if document.readable then .ok document else .fault []

instance {α : Type} [Codec α] : Codec (Option α) where
  encode
    | some value => encode value
    | none => .null
  decode surplus
    | .null => .ok none
    | document => some <$> decode surplus document

instance {α : Type} [Codec α] : Codec (List α) where
  encode values := .list (values.map encode)
  decode surplus
    | .list items => decodeItems (decode surplus) 0 items
    | _ => .fault []

/-- Reads one of a set of names, written as text or as the key of a table that holds null. -/
def decodeName {α : Type} (ofName? : String → Option α) : Document → Decoded α
  | .text name => .ofOption (ofName? name)
  | .table ((name, value) :: rest) =>
    match ofName? name, value with
    | some result, .null => if rest.isEmpty then .ok result else .fault []
    | _, _ => .fault [.key name]
  | _ => .fault []

end ListQuery
