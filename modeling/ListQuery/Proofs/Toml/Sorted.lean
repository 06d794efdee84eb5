import ListQuery.Proofs.Document.Overlay
import ListQuery.Toml.Reader

/-!
# TOML trees are sorted

What a TOML text spells lists the keys of each table once and in order (`parse?_sorted`). The tables
under definition are sorted all along, so each statement only has to keep them so.
-/
namespace ListQuery.Toml

/-! ## Tables under definition -/

def Node.toDocument : Node → Document
  | value document => document
  | table child => child.toDocument
  | tables newest older => .list ((newest.toDocument :: Table.olderDocuments older).reverse)

namespace Table

/-- The table stands for a sorted tree. -/
def Sorted (table : Table) : Prop := table.toDocument.Sorted

theorem entriesDocument_cons (key : String) (node : Node) (rest : List (String × Node)) :
    entriesDocument ((key, node) :: rest) = (key, node.toDocument) :: entriesDocument rest := by
  cases node with
  | _ => rfl

theorem lookup_entriesDocument (key : String) (entries : List (String × Node)) :
    (entriesDocument entries).lookup key = (entries.lookup key).map Node.toDocument := by
  induction entries with
  | nil => rfl
  | cons entry rest ih =>
    obtain ⟨head, node⟩ := entry
    rw [entriesDocument_cons, lookup_cons_ite, lookup_cons_ite, ih]
    split
    next => rfl
    next => rfl

theorem entriesDocument_setEntry (key : String) (node : Node) (entries : List (String × Node)) :
    entriesDocument (setEntry key node entries) =
      setEntry key node.toDocument (entriesDocument entries) := by
  induction entries with
  | nil => exact entriesDocument_cons key node []
  | cons entry rest ih =>
    obtain ⟨head, old⟩ := entry
    rw [setEntry, entriesDocument_cons head old rest, setEntry]
    split
    next => rw [entriesDocument_cons, entriesDocument_cons]
    next =>
      split
      next => rw [entriesDocument_cons]
      next => rw [entriesDocument_cons, ih]

theorem sorted_empty (origin : Origin) : (empty origin).Sorted :=
  .table [] List.Pairwise.nil nofun

theorem Sorted.set {table : Table} {key : String} {node : Node} (sorted : table.Sorted)
    (fits : node.toDocument.Sorted) : (table.set key node).Sorted := by
  obtain ⟨origin, entries⟩ := table
  change Document.Sorted (.table (entriesDocument (setEntry key node entries)))
  rw [entriesDocument_setEntry]
  exact Document.Sorted.setEntry sorted fits

theorem Sorted.of_find? {table : Table} {key : String} {node : Node} (sorted : table.Sorted)
    (found : table.find? key = some node) : node.toDocument.Sorted := by
  obtain ⟨origin, entries⟩ := table
  have found_document := lookup_entriesDocument key entries
  rw [show entries.lookup key = some node from found] at found_document
  exact Document.Sorted.of_lookup sorted found_document

/-- A change at a path keeps the table sorted if it keeps the table at the path sorted. -/
theorem Sorted.update {byDottedKey : Bool} {change : Table → Option Table}
    (keeps : ∀ {table changed}, table.Sorted → change table = some changed → changed.Sorted)
    {path : List String} {table updated : Table} (sorted : table.Sorted)
    (done : table.update byDottedKey change path = some updated) : updated.Sorted := by
  induction path generalizing table updated with
  | nil => exact keeps sorted done
  | cons key keys ih =>
    rw [Table.update] at done
    split at done
    next =>
      obtain ⟨child, changed, rfl⟩ := Option.map_eq_some_iff.mp done
      exact sorted.set (ih (sorted_empty _) changed)
    next child found =>
      split at done
      next => cases done
      next =>
        obtain ⟨child', changed, rfl⟩ := Option.map_eq_some_iff.mp done
        exact sorted.set (ih (sorted.of_find? found) changed)
    next newest older found =>
      obtain ⟨child', changed, rfl⟩ := Option.map_eq_some_iff.mp done
      exact sorted.set (.value (.list _) nofun)
    next => cases done

theorem Sorted.define {path : List String} {key : String} {value : Document}
    {table defined : Table} (sorted : table.Sorted) (fits : value.Sorted)
    (done : table.define path key value = some defined) : defined.Sorted := by
  refine sorted.update (fun {table changed} sorted done => ?_) done
  split at done
  next => cases done
  next =>
    cases done
    exact sorted.set fits

theorem Sorted.openTable {path : List String} {key : String} {table opened : Table}
    (sorted : table.Sorted) (done : table.openTable path key = some opened) : opened.Sorted := by
  refine sorted.update (fun {parent changed} sorted done => ?_) done
  split at done
  next =>
    cases done
    exact sorted.set (sorted_empty .header)
  next child found =>
    split at done
    next =>
      cases done
      have child_sorted : child.Sorted := sorted.of_find? found
      obtain ⟨origin, entries⟩ := child
      exact sorted.set child_sorted
    next => cases done
  next => cases done

theorem Sorted.openItem {path : List String} {key : String} {table opened : Table}
    (sorted : table.Sorted) (done : table.openItem path key = some opened) : opened.Sorted := by
  refine sorted.update (fun {parent changed} sorted done => ?_) done
  split at done
  next =>
    cases done
    exact sorted.set (.value (.list _) nofun)
  next =>
    cases done
    exact sorted.set (.value (.list _) nofun)
  next => cases done

end Table

/-! ## Values -/

theorem float?_sorted {word : List Char} {document : Document}
    (read : float? word = some document) : document.Sorted := by
  unfold float? at read
  dsimp only at read
  split at read
  next =>
    cases read
    exact .value _ nofun
  next =>
    split at read
    next => cases read
    next =>
      split at read
      next =>
        split at read
        next =>
          split at read
          next =>
            cases read
            exact .value _ nofun
          next => cases read
        next =>
          cases read
          exact .value _ nofun
      next => cases read

theorem scalar?_sorted {word : List Char} {document : Document}
    (read : scalar? word = some document) : document.Sorted := by
  unfold scalar? at read
  split at read
  next =>
    cases read
    exact .value _ nofun
  next =>
    split at read
    next =>
      cases read
      exact .value _ nofun
    next =>
      split at read
      next =>
        cases read
        exact (Document.Sorted.table [] List.Pairwise.nil nofun).setEntry (.value _ nofun)
      next =>
        split at read
        next =>
          cases read
          exact .value _ nofun
        next => exact float?_sorted read

/-- With so much fuel, what is read as a value is sorted. -/
def ReadsSorted (fuel : Nat) : Prop :=
  ∀ {depth input value rest}, readValue fuel depth input = some (value, rest) → value.Sorted

/-- With so much fuel, reading entries keeps a table sorted. -/
def KeepsSorted (fuel : Nat) : Prop :=
  ∀ {depth table input read rest}, table.Sorted →
    readEntries fuel depth table input = some (read, rest) → read.Sorted

theorem KeepsSorted.readValue {fuel : Nat} (keeps : KeepsSorted fuel) : ReadsSorted (fuel + 1) := by
  intro depth input value rest read
  unfold Toml.readValue at read
  split at read
  next =>
    obtain ⟨⟨text, tail⟩, _, same⟩ := Option.map_eq_some_iff.mp read
    cases same
    exact .value _ nofun
  next =>
    obtain ⟨⟨text, tail⟩, _, same⟩ := Option.map_eq_some_iff.mp read
    cases same
    exact .value _ nofun
  next =>
    split at read
    next => cases read
    next =>
      obtain ⟨⟨items, tail⟩, _, same⟩ := Option.map_eq_some_iff.mp read
      cases same
      exact .value _ nofun
  next =>
    split at read
    next => cases read
    next =>
      split at read
      next =>
        cases read
        exact .table [] List.Pairwise.nil nofun
      next =>
        obtain ⟨⟨table, tail⟩, entriesRead, same⟩ := Option.map_eq_some_iff.mp read
        cases same
        exact keeps (Table.sorted_empty _) entriesRead
  next =>
    obtain ⟨document, wordRead, same⟩ := Option.map_eq_some_iff.mp read
    cases same
    exact scalar?_sorted wordRead

theorem KeepsSorted.readEntries {fuel : Nat} (keeps : KeepsSorted fuel) (reads : ReadsSorted fuel) :
    KeepsSorted (fuel + 1) := by
  intro depth table input read rest sorted done
  unfold Toml.readEntries at done
  split at done
  next path key tail _ =>
    split at done
    next => cases done
    next value tail valueRead =>
      split at done
      next defined onward tableDefined _ =>
        exact keeps (sorted.define (reads valueRead) tableDefined) done
      next defined onward tableDefined _ =>
        cases done
        exact sorted.define (reads valueRead) tableDefined
      next => cases done
  next => cases done

/-- Values and the tables in braces are read by each other, so both are shown sorted at once. -/
theorem reads_sorted (fuel : Nat) : ReadsSorted fuel ∧ KeepsSorted fuel := by
  induction fuel with
  | zero =>
    refine ⟨?_, ?_⟩
    · intro depth input value rest read
      rw [readValue] at read
      cases read
    · intro depth table input read rest _ done
      rw [readEntries] at done
      cases done
  | succ fuel ih =>
    obtain ⟨reads, keeps⟩ := ih
    exact ⟨keeps.readValue, keeps.readEntries reads⟩

/-! ## Statements -/

theorem Statement.sorted_of_read {input rest : List Char} {path : List String} {key : String}
    {value : Document}
    (read : readStatement input = some (.assignment path key value, rest)) : value.Sorted := by
  unfold readStatement at read
  split at read
  next =>
    split at read
    next => cases read
    next => cases read
  next =>
    split at read
    next => cases read
    next => cases read
  next =>
    split at read
    next =>
      obtain ⟨⟨value, tail⟩, valueRead, same⟩ := Option.map_eq_some_iff.mp read
      cases same
      exact (reads_sorted _).1 valueRead
    next => cases read

/-- Each statement keeps the tables defined so far sorted. -/
theorem Progress.sorted_apply {progress after : Progress} {statement : Statement}
    {input rest : List Char} (sorted : progress.root.Sorted)
    (read : readStatement input = some (statement, rest))
    (applied : progress.apply statement = some after) : after.root.Sorted := by
  cases statement with
  | assignment path key value =>
    have fits := Statement.sorted_of_read read
    obtain ⟨root, changed, rfl⟩ := Option.map_eq_some_iff.mp applied
    exact sorted.update (fun sorted done => sorted.define fits done) changed
  | header path key =>
    obtain ⟨root, changed, rfl⟩ := Option.map_eq_some_iff.mp applied
    exact sorted.openTable changed
  | itemHeader path key =>
    obtain ⟨root, changed, rfl⟩ := Option.map_eq_some_iff.mp applied
    exact sorted.openItem changed

theorem readLines_sorted {fuel : Nat} {progress : Progress} {input : List Char} {root : Table}
    (sorted : progress.root.Sorted) (read : readLines fuel progress input = some root) :
    root.Sorted := by
  induction fuel generalizing progress input with
  | zero => cases read
  | succ fuel ih =>
    rw [readLines] at read
    split at read
    next => cases read
    next =>
      cases read
      exact sorted
    next =>
      split at read
      next => cases read
      next statement rest statementRead =>
        split at read
        next after tail applied _ =>
          exact ih (Progress.sorted_apply sorted statementRead applied) read
        next => cases read

/-- What a text spells is a sorted tree. -/
theorem parse?_sorted {text : String} {document : Document}
    (parsed : parse? text = some document) : document.Sorted := by
  obtain ⟨root, read, rfl⟩ := Option.map_eq_some_iff.mp parsed
  exact readLines_sorted (Table.sorted_empty _) read

theorem parse?_eq_table {text : String} {document : Document}
    (parsed : parse? text = some document) : ∃ entries, document = .table entries := by
  obtain ⟨⟨origin, entries⟩, _, rfl⟩ := Option.map_eq_some_iff.mp parsed
  exact ⟨Table.entriesDocument entries, rfl⟩

end ListQuery.Toml
