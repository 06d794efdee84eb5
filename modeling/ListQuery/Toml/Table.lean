import ListQuery.Document.Entries

/-!
TOML tables while they are being defined. What may still be added to a table depends on what first
brought it about.
-/
namespace ListQuery.Toml

inductive Origin where
  /-- A header of its own. -/
  | header
  /-- The header of a table further in. -/
  | implied
  /-- A dotted key. -/
  | dotted
  deriving DecidableEq, Repr

mutual

inductive Node where
  | value (document : Document)
  | table (table : Table)
  /-- An array of tables, of which only the newest can still grow. -/
  | tables (newest : Table) (older : List Table)

inductive Table where
  | mk (origin : Origin) (entries : List (String × Node))

end

namespace Table

def origin : Table → Origin
  | mk origin _ => origin

def entries : Table → List (String × Node)
  | mk _ entries => entries

def empty (origin : Origin) : Table := mk origin []

def find? (table : Table) (key : String) : Option Node :=
  table.entries.lookup key

def set (table : Table) (key : String) (node : Node) : Table :=
  mk table.origin (setEntry key node table.entries)

/--
Changes the table at a path of keys, starting from `table`; missing tables on the way are made. A
dotted key cannot pass through a table that has a header.
-/
def update (byDottedKey : Bool) (change : Table → Option Table) :
    List String → Table → Option Table
  | [], table => change table
  | key :: keys, table =>
    match table.find? key with
    | none =>
      (update byDottedKey change keys (empty (if byDottedKey then .dotted else .implied))).map
        fun child => table.set key (.table child)
    | some (.table child) =>
      if byDottedKey ∧ child.origin = .header then none
      else (update byDottedKey change keys child).map fun child => table.set key (.table child)
    | some (.tables newest older) =>
      (update byDottedKey change keys newest).map fun child => table.set key (.tables child older)
    | some (.value _) => none

/-- Sets a key that is not yet there; a dotted key must end in a table of dotted keys. -/
def define (path : List String) (key : String) (value : Document) : Table → Option Table :=
  update true (fun table =>
    if (table.origin = .dotted ↔ path = []) ∨ (table.find? key).isSome then none
    else some (table.set key (.value value))) path

/-- The effect of a header: a table may be given one header, also after tables further in. -/
def openTable (path : List String) (key : String) : Table → Option Table :=
  update false (fun parent =>
    match parent.find? key with
    | none => some (parent.set key (.table (empty .header)))
    | some (.table table) =>
      if table.origin = .implied then some (parent.set key (.table (mk .header table.entries)))
      else none
    | some _ => none) path

/-- The effect of a header in double brackets: one more table at the end of an array. -/
def openItem (path : List String) (key : String) : Table → Option Table :=
  update false (fun parent =>
    match parent.find? key with
    | none => some (parent.set key (.tables (empty .header) []))
    | some (.tables newest older) =>
      some (parent.set key (.tables (empty .header) (newest :: older)))
    | some _ => none) path

mutual

def toDocument : Table → Document
  | mk _ entries => .table (entriesDocument entries)

def entriesDocument : List (String × Node) → List (String × Document)
  | [] => []
  | (key, .value document) :: rest => (key, document) :: entriesDocument rest
  | (key, .table table) :: rest => (key, toDocument table) :: entriesDocument rest
  | (key, .tables newest older) :: rest =>
    (key, .list ((toDocument newest :: olderDocuments older).reverse)) :: entriesDocument rest

def olderDocuments : List Table → List Document
  | [] => []
  | table :: rest => toDocument table :: olderDocuments rest

end

end Table

end ListQuery.Toml
