/-! Where the parameters of a request come from: any table from names to one or more values. -/
namespace ListQuery.Query

inductive Value where
  | single (value : String)
  | multiple (values : List String)
  deriving DecidableEq, Repr

namespace Value

/-- One value stands alone, several stand together, and none is no value. -/
def ofList? : List String → Option Value
  | [] => none
  | [value] => some (single value)
  | values => some (multiple values)

def toList : Value → List String
  | single value => [value]
  | multiple values => values

def first? : Value → Option String
  | single value => some value
  | multiple values => values.head?

theorem first?_eq_head? (value : Value) : value.first? = value.toList.head? := by
  cases value <;> rfl

/-- Putting values together and taking them apart again loses none, not even when there are none. -/
theorem toList_ofList? (values : List String) : ((ofList? values).map toList).getD [] = values := by
  match values with
  | [] => rfl
  | [_] => rfl
  | _ :: _ :: _ => rfl

end Value

/-- The value a request has under a name. -/
abbrev Source := String → Option Value

namespace Source

def ofPairs (pairs : List (String × String)) : Source := fun name =>
  Value.ofList? ((pairs.filter fun pair => pair.1 == name).map Prod.snd)

def ofMap (map : String → Option String) : Source := fun name =>
  (map name).map .single

def ofMultimap (map : String → Option (List String)) : Source := fun name =>
  (map name).bind Value.ofList?

/-- Every value under a name. -/
def all (source : Source) (name : String) : List String :=
  ((source name).map Value.toList).getD []

/-- The first value under a name. -/
def first (source : Source) (name : String) : Option String :=
  (source name).bind Value.first?

theorem first_eq_head? (source : Source) (name : String) :
    source.first name = (source.all name).head? := by
  unfold first all
  cases source name with
  | none => rfl
  | some value => exact value.first?_eq_head?

theorem all_ofPairs (pairs : List (String × String)) (name : String) :
    (ofPairs pairs).all name = (pairs.filter fun pair => pair.1 == name).map Prod.snd :=
  Value.toList_ofList? _

end Source

end ListQuery.Query
