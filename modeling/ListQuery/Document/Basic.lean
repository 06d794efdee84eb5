/-! Structured data as a tree, whichever notation it is written in. -/
namespace ListQuery

inductive Document where
  | null
  | bool (value : Bool)
  | int (value : Int)
  /-- A number that is not a whole number of a machine word: digits times a power of ten. -/
  | decimal (negative : Bool) (digits : Nat) (exponent : Int)
  | text (value : String)
  | list (items : List Document)
  | table (entries : List (String × Document))
  /-- What is spelled correctly but stands for no value, such as half of a surrogate pair. -/
  | unreadable
  deriving Repr, Inhabited

namespace Document

mutual

/-- Whether every part of the tree stands for a value. -/
def readable : Document → Bool
  | unreadable => false
  | list items => readableItems items
  | table entries => readableEntries entries
  | _ => true

def readableItems : List Document → Bool
  | [] => true
  | item :: rest => readable item && readableItems rest

def readableEntries : List (String × Document) → Bool
  | [] => true
  | (_, value) :: rest => readable value && readableEntries rest

end

mutual

/-- Whether two trees are the same. -/
def beq : Document → Document → Bool
  | null, null => true
  | bool value, bool value' => value == value'
  | int value, int value' => value == value'
  | decimal negative digits exponent, decimal negative' digits' exponent' =>
    negative == negative' && digits == digits' && exponent == exponent'
  | text value, text value' => value == value'
  | list items, list items' => beqItems items items'
  | table entries, table entries' => beqEntries entries entries'
  | unreadable, unreadable => true
  | _, _ => false

def beqItems : List Document → List Document → Bool
  | [], [] => true
  | item :: rest, item' :: rest' => beq item item' && beqItems rest rest'
  | _, _ => false

def beqEntries : List (String × Document) → List (String × Document) → Bool
  | [], [] => true
  | (key, value) :: rest, (key', value') :: rest' =>
    key == key' && beq value value' && beqEntries rest rest'
  | _, _ => false

end

mutual

theorem beq_iff (document other : Document) : beq document other = true ↔ document = other := by
  cases document with
  | list items => cases other <;> simp [beq, beqItems_iff items]
  | table entries => cases other <;> simp [beq, beqEntries_iff entries]
  | _ => cases other <;> simp [beq, and_assoc]

theorem beqItems_iff (items others : List Document) :
    beqItems items others = true ↔ items = others := by
  cases items with
  | nil => cases others <;> simp [beqItems]
  | cons item rest => cases others <;> simp [beqItems, beq_iff item, beqItems_iff rest]

theorem beqEntries_iff (entries others : List (String × Document)) :
    beqEntries entries others = true ↔ entries = others := by
  cases entries with
  | nil => cases others <;> simp [beqEntries]
  | cons entry rest =>
    obtain ⟨key, value⟩ := entry
    cases others <;> simp [beqEntries, beq_iff value, beqEntries_iff rest, Prod.ext_iff]

end

instance : DecidableEq Document := fun document other =>
  decidable_of_iff (beq document other = true) (beq_iff document other)

end Document

/-- Where a part of a tree lies. -/
inductive PathStep where
  | key (name : String)
  | position (index : Nat)
  deriving DecidableEq, Repr

namespace PathStep

def text : PathStep → String
  | key name => name
  | position index => toString index

/-- The order of parts within one tree. -/
def precedes : PathStep → PathStep → Bool
  | key a, key b => a < b
  | position a, position b => a < b
  | key _, position _ => false
  | position _, key _ => true

end PathStep

abbrev Path := List PathStep

/-- Of two paths the one that comes first when the tree is read from its start. -/
def Path.earlier : Path → Path → Path
  | [], _ => []
  | _, [] => []
  | a :: as, b :: bs =>
    if a = b then a :: Path.earlier as bs
    else if a.precedes b then a :: as
    else b :: bs

end ListQuery
