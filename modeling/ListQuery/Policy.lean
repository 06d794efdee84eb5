import ListQuery.Rule
import ListQuery.SortKey

/-! What an endpoint allows: allow-lists, in which an empty list allows everything, and page limits. -/
namespace ListQuery

def isAllowed {α : Type} [DecidableEq α] (value : α) (list : List α) : Bool :=
  list.isEmpty || list.contains value

structure AllowList (α : Type) where
  entries : List α := []
  deriving DecidableEq, Repr

namespace AllowList

variable {α : Type}

def unrestricted (list : AllowList α) : Bool := list.entries.isEmpty

def permits [DecidableEq α] (list : AllowList α) (value : α) : Bool :=
  isAllowed value list.entries

theorem permits_iff [DecidableEq α] (list : AllowList α) (value : α) :
    list.permits value = true ↔ list.entries = [] ∨ value ∈ list.entries := by
  simp [permits, isAllowed]

end AllowList

structure FilterPolicy where
  fields : AllowList String := {}
  rules : AllowList Rule := {}
  deriving DecidableEq, Repr

structure SortDefault where
  property : Option String := none
  direction : Option Direction := none
  deriving DecidableEq, Repr

/-- A default counts only when it names a property and a direction. -/
def SortDefault.resolve (value : SortDefault) : Option SortKey :=
  match value.property, value.direction with
  | some property, some direction => if property.isEmpty then none else some ⟨property, direction⟩
  | _, _ => none

structure SortPolicy where
  fields : AllowList String := {}
  fallback : Option SortDefault := none
  deriving DecidableEq, Repr

def SortPolicy.fallbackKey (policy : SortPolicy) : Option SortKey :=
  policy.fallback.bind SortDefault.resolve

/-- The fallback stands in for a missing limit and is not held to the bounds. -/
structure LimitPolicy where
  minimum : Option Int64 := none
  maximum : Option Int64 := none
  fallback : Option UInt64 := none
  deriving DecidableEq, Repr

structure Policy where
  filters : FilterPolicy := {}
  sort : SortPolicy := {}
  limit : LimitPolicy := {}
  deriving DecidableEq, Repr

end ListQuery
