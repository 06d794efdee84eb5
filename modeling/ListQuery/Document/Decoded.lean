import ListQuery.Document.Basic

/-!
The outcome of turning a tree into a value: the value, or the path of what does not fit. Of several
faults the one that comes first in the tree is kept.
-/
namespace ListQuery

inductive Decoded (α : Type) where
  | ok (value : α)
  | fault (path : Path)
  deriving DecidableEq, Repr

namespace Decoded

variable {α β : Type}

def map (f : α → β) : Decoded α → Decoded β
  | ok value => ok (f value)
  | fault path => fault path

def apply : Decoded (α → β) → Decoded α → Decoded β
  | ok f, ok value => ok (f value)
  | ok _, fault path => fault path
  | fault path, ok _ => fault path
  | fault path, fault path' => fault (path.earlier path')

def andThen : Decoded α → (α → Decoded β) → Decoded β
  | ok value, next => next value
  | fault path, _ => fault path

/-- The outcome for a part of a tree, as an outcome for the whole. -/
def within (step : PathStep) : Decoded α → Decoded α
  | ok value => ok value
  | fault path => fault (step :: path)

def ofOption : Option α → Decoded α
  | some value => ok value
  | none => fault []

def toOption : Decoded α → Option α
  | ok value => some value
  | fault _ => none

instance : Functor Decoded where
  map := map

instance : Applicative Decoded where
  pure := ok
  seq f value := apply f (value ())

@[simp] theorem map_ok (f : α → β) (value : α) : f <$> (ok value) = ok (f value) := rfl

@[simp] theorem seq_ok (f : α → β) (value : α) : (ok f : Decoded (α → β)) <*> ok value = ok (f value) :=
  rfl

end Decoded

end ListQuery
