import ListQuery.Document.Entries

/-!
# Overlay: trees path by path

`part?` is what a tree has at a path through tables. Of two trees laid over each other the upper one
counts where it covers a path, with something there or with a value higher up
(`Sorted.part?_overlay_of_covers`), and the lower one elsewhere (`Sorted.part?_overlay_of_not_covers`).
Sorted trees are told apart by their parts (`Sorted.ext`), so equations between trees are proved path
by path.
-/
namespace ListQuery

/-! ## Entries -/

theorem lookup_cons_ite {α : Type} (key other : String) (value : α) (rest : List (String × α)) :
    ((key, value) :: rest).lookup other = if other = key then some value else rest.lookup other := by
  rw [List.lookup_cons]
  split
  next same => rw [if_pos (beq_iff_eq.mp same)]
  next different => rw [if_neg (beq_eq_false_iff_ne.mp different)]

theorem mem_of_lookup {α : Type} {key : String} {value : α} {entries : List (String × α)}
    (found : entries.lookup key = some value) : (key, value) ∈ entries := by
  obtain ⟨before, after, rfl, _⟩ := List.lookup_eq_some_iff.mp found
  exact List.mem_append_right _ List.mem_cons_self

/-- Setting a key changes what is found under that key and nothing else. -/
theorem lookup_setEntry {α : Type} (key other : String) (value : α)
    (entries : List (String × α)) :
    (setEntry key value entries).lookup other =
      if other = key then some value else entries.lookup other := by
  induction entries with
  | nil => exact lookup_cons_ite key other value []
  | cons entry rest ih =>
    obtain ⟨k, v⟩ := entry
    rw [setEntry]
    split
    next => exact lookup_cons_ite key other value ((k, v) :: rest)
    next =>
      split
      next same =>
        subst same
        rw [lookup_cons_ite, lookup_cons_ite]
        split
        next => rfl
        next => rfl
      next different =>
        rw [lookup_cons_ite, lookup_cons_ite, ih]
        by_cases isHead : other = k
        · subst isHead
          rw [if_pos rfl, if_neg (Ne.symm different), if_pos rfl]
        · rw [if_neg isHead, if_neg isHead]

theorem Ordered.tail {α : Type} {entry : String × α} {rest : List (String × α)}
    (ordered : Ordered (entry :: rest)) : Ordered rest :=
  (List.pairwise_cons.mp ordered).2

theorem Ordered.lookup_eq_none {α : Type} {key other : String} {value : α}
    {rest : List (String × α)} (ordered : Ordered ((key, value) :: rest)) (before : ¬ key < other) :
    rest.lookup other = none := by
  cases found : rest.lookup other with
  | none => rfl
  | some old => exact absurd ((List.pairwise_cons.mp ordered).1 _ (mem_of_lookup found)) before

/-- Of two different first keys the smaller one would be missing from the other list. -/
theorem Ordered.head_key_eq {α : Type} {key key' : String} {value value' : α}
    {rest rest' : List (String × α)} (ordered : Ordered ((key, value) :: rest))
    (ordered' : Ordered ((key', value') :: rest'))
    (same : ∀ other, ((key, value) :: rest).lookup other = ((key', value') :: rest').lookup other) :
    key = key' := by
  refine Decidable.byContradiction fun different => ?_
  have found := same key
  have found' := same key'
  rw [lookup_cons_ite, if_pos rfl, lookup_cons_ite, if_neg different] at found
  rw [lookup_cons_ite, if_neg (Ne.symm different), lookup_cons_ite, if_pos rfl] at found'
  by_cases before : key < key'
  · have later : ¬ key' < key := fun h => String.lt_irrefl key (String.lt_trans before h)
    rw [ordered'.lookup_eq_none later] at found
    cases found
  · rw [ordered.lookup_eq_none before] at found'
    cases found'

/-- Ordered entries are told apart by what is found under the keys. -/
theorem Ordered.ext {α : Type} {first second : List (String × α)} (ordered : Ordered first)
    (ordered' : Ordered second) (same : ∀ key, first.lookup key = second.lookup key) :
    first = second := by
  induction first generalizing second with
  | nil =>
    cases second with
    | nil => rfl
    | cons entry rest =>
      have found := same entry.1
      rw [lookup_cons_ite, if_pos rfl] at found
      cases found
  | cons entry rest ih =>
    obtain ⟨key, value⟩ := entry
    cases second with
    | nil =>
      have found := same key
      rw [lookup_cons_ite, if_pos rfl] at found
      cases found
    | cons entry' rest' =>
      obtain ⟨key', value'⟩ := entry'
      have keys := ordered.head_key_eq ordered' same
      subst keys
      have values := same key
      rw [lookup_cons_ite, lookup_cons_ite, if_pos rfl, if_pos rfl] at values
      cases values
      rw [ih ordered.tail ordered'.tail]
      intro other
      by_cases isHead : other = key
      · subst isHead
        rw [ordered.lookup_eq_none (String.lt_irrefl _), ordered'.lookup_eq_none (String.lt_irrefl _)]
      · have others := same other
        rwa [lookup_cons_ite, lookup_cons_ite, if_neg isHead, if_neg isHead] at others

namespace Document

/-! ## Sorted trees -/

/-- Tables list their keys in order, down to the first value that is no table. -/
inductive Sorted : Document → Prop where
  | table (entries : List (String × Document)) (ordered : Ordered entries)
      (each : ∀ entry ∈ entries, Sorted entry.2) : Sorted (Document.table entries)
  | value (document : Document) (notTable : ∀ entries, document ≠ Document.table entries) : Sorted document

theorem Sorted.ordered {entries : List (String × Document)} (sorted : Sorted (Document.table entries)) :
    Ordered entries := by
  cases sorted with
  | table _ ordered _ => exact ordered
  | value _ notTable => exact absurd rfl (notTable entries)

theorem Sorted.of_lookup {entries : List (String × Document)} {key : String} {document : Document}
    (sorted : Sorted (Document.table entries)) (found : entries.lookup key = some document) :
    document.Sorted := by
  cases sorted with
  | table _ _ each => exact each _ (mem_of_lookup found)
  | value _ notTable => exact absurd rfl (notTable entries)

theorem Sorted.setEntry {entries : List (String × Document)} {key : String} {document : Document}
    (sorted : Sorted (Document.table entries)) (fits : document.Sorted) :
    Sorted (Document.table (ListQuery.setEntry key document entries)) := by
  refine .table _ sorted.ordered.setEntry ?_
  intro entry member
  rcases mem_setEntry member with rfl | member
  · exact fits
  · cases sorted with
    | table _ _ each => exact each entry member
    | value _ notTable => exact absurd rfl (notTable entries)

theorem overlay_of_ne_table {upper : Document} (notTable : ∀ entries, upper ≠ table entries)
    (lower : Document) : lower.overlay upper = upper := by
  cases upper with
  | table entries => exact absurd rfl (notTable entries)
  | _ => rfl

theorem Sorted.overlay {lower upper : Document} (sorted : lower.Sorted) (sorted' : upper.Sorted) :
    (lower.overlay upper).Sorted := by
  induction sorted' generalizing lower with
  | value upper notTable =>
    rw [overlay_of_ne_table notTable]
    exact .value upper notTable
  | table upper ordered each ih =>
    cases lower with
    | table entries =>
      rw [Document.overlay]
      -- The entries are laid over one at a time, so the lower table changes on the way.
      clear ordered
      induction upper generalizing entries with
      | nil => exact sorted
      | cons entry rest onward =>
        obtain ⟨key, value⟩ := entry
        rw [overlayEntries]
        refine onward (fun entry member => each entry (List.mem_cons_of_mem _ member))
          (fun entry member => ih entry (List.mem_cons_of_mem _ member)) _ (sorted.setEntry ?_)
        split
        next old found => exact ih _ List.mem_cons_self (sorted.of_lookup found)
        next => exact each _ List.mem_cons_self
    | _ => exact .table upper ordered each

theorem lookup_overlayEntries {upper : List (String × Document)} (ordered : Ordered upper)
    (lower : List (String × Document)) (key : String) :
    (overlayEntries lower upper).lookup key =
      match upper.lookup key with
      | none => lower.lookup key
      | some value =>
        some (match lower.lookup key with | some old => old.overlay value | none => value) := by
  induction upper generalizing lower with
  | nil => rfl
  | cons entry rest ih =>
    obtain ⟨head, value⟩ := entry
    rw [overlayEntries, ih ordered.tail, lookup_cons_ite, lookup_setEntry]
    -- No later entry has the key of the first, so what is set for it stays.
    by_cases isHead : key = head
    · subst isHead
      rewrite [ordered.lookup_eq_none (String.lt_irrefl _), if_pos rfl, if_pos rfl]
      rfl
    · rw [if_neg isHead, if_neg isHead]

/-! ## Parts -/

/-- The tree under a key of a table. -/
def child? : Document → String → Option Document
  | table entries, key => entries.lookup key
  | _, _ => none

/-- What lies at a path: a table, or a value that is none. -/
inductive Part where
  | table
  | value (document : Document)

def part? : List String → Document → Option Part
  | [], table _ => some .table
  | [], document => some (.value document)
  | key :: keys, document => (document.child? key).bind (part? keys)

/-- A value lies above a path, so that nothing lies at the path. -/
def Hides (document : Document) (path : List String) : Prop :=
  ∃ shorter rest value, path = shorter ++ rest ∧ rest ≠ [] ∧
    document.part? shorter = some (.value value)

/-- Something lies at a path, or a value above it. -/
def Covers (document : Document) (path : List String) : Prop :=
  document.part? path ≠ none ∨ document.Hides path

theorem part?_nil_of_ne_table {document : Document}
    (notTable : ∀ entries, document ≠ Document.table entries) :
    document.part? [] = some (.value document) := by
  cases document with
  | table entries => exact absurd rfl (notTable entries)
  | _ => rfl

theorem part?_nil_ne_none (document : Document) : document.part? [] ≠ none := by
  cases document with
  | _ => exact Option.some_ne_none _

/-- Nothing lies below a value. -/
theorem part?_append_of_value {document value : Document} {shorter rest : List String}
    (found : document.part? shorter = some (.value value)) (below : rest ≠ []) :
    document.part? (shorter ++ rest) = none := by
  induction shorter generalizing document with
  | nil =>
    cases rest with
    | nil => exact absurd rfl below
    | cons key keys =>
      cases document with
      | table entries => cases found
      | _ => rfl
  | cons key keys ih =>
    rw [List.cons_append, part?]
    rw [part?] at found
    obtain ⟨child, isChild, found⟩ := Option.bind_eq_some_iff.mp found
    rw [isChild]
    exact ih found

theorem covers_of_some {document : Document} {path : List String} {part : Part}
    (found : document.part? path = some part) : document.Covers path :=
  .inl fun missing => Option.some_ne_none part (found.symm.trans missing)

/-- A table covers what lies in it. -/
theorem covers_table_iff {entries : List (String × Document)} {key : String}
    {keys : List String} :
    (Document.table entries).Covers (key :: keys) ↔
      ∃ child, entries.lookup key = some child ∧ child.Covers keys := by
  constructor
  · rintro (present | ⟨shorter, rest, document, cut, below, found⟩)
    · obtain ⟨part, found⟩ := Option.ne_none_iff_exists'.mp present
      obtain ⟨child, isChild, found⟩ := Option.bind_eq_some_iff.mp found
      exact ⟨child, isChild, covers_of_some found⟩
    · cases shorter with
      | nil => cases found
      | cons head shorter =>
        obtain ⟨rfl, rfl⟩ := List.cons.inj cut
        obtain ⟨child, isChild, found⟩ := Option.bind_eq_some_iff.mp found
        exact ⟨child, isChild, .inr ⟨shorter, rest, document, rfl, below, found⟩⟩
  · rintro ⟨child, isChild, present | ⟨shorter, rest, document, rfl, below, found⟩⟩
    · refine .inl fun missing => present ?_
      rwa [part?, child?, isChild] at missing
    · refine .inr ⟨key :: shorter, rest, document, rfl, below, ?_⟩
      rw [part?, child?, isChild]
      exact found

theorem hides_of_ne_table {document : Document}
    (notTable : ∀ entries, document ≠ Document.table entries) (key : String)
    (keys : List String) : document.Hides (key :: keys) :=
  ⟨[], key :: keys, document, rfl, List.cons_ne_nil _ _, part?_nil_of_ne_table notTable⟩

/-! ## Parts of overlaid trees -/

/-- A table laid over a tree is a table of the children of both, laid over each other. -/
theorem Sorted.child?_overlay {upper : List (String × Document)}
    (sorted : Sorted (Document.table upper)) (lower : Document) (key : String) :
    (lower.overlay (Document.table upper)).child? key =
      match upper.lookup key with
      | none => lower.child? key
      | some laid =>
        some (match lower.child? key with | some old => old.overlay laid | none => laid) := by
  cases lower with
  | table entries => exact lookup_overlayEntries sorted.ordered entries key
  | _ =>
    change upper.lookup key = _
    cases upper.lookup key with
    | none => rfl
    | some laid => rfl

theorem Sorted.part?_overlay_of_some {upper : Document} (sorted : upper.Sorted) (lower : Document)
    {path : List String} {part : Part} (found : upper.part? path = some part) :
    (lower.overlay upper).part? path = some part := by
  induction path generalizing lower upper with
  | nil =>
    cases upper with
    | table entries => cases lower <;> exact found
    | _ => exact found
  | cons key keys ih =>
    obtain ⟨child, isChild, below⟩ := Option.bind_eq_some_iff.mp found
    cases upper with
    | table entries =>
      have child_sorted := sorted.of_lookup isChild
      change entries.lookup key = some child at isChild
      rw [part?, sorted.child?_overlay, isChild]
      cases lower.child? key with
      | none => exact below
      | some old => exact ih child_sorted old below
    | _ => cases isChild

/-- Where the upper tree says something of a path, it alone counts. -/
theorem Sorted.part?_overlay_of_covers {upper : Document} (sorted : upper.Sorted)
    (lower : Document) {path : List String} (covers : upper.Covers path) :
    (lower.overlay upper).part? path = upper.part? path := by
  cases found : upper.part? path with
  | some part => exact sorted.part?_overlay_of_some lower found
  | none =>
    rcases covers with present | ⟨shorter, rest, value, rfl, below, above⟩
    · exact absurd found present
    · exact part?_append_of_value (sorted.part?_overlay_of_some lower above) below

/-- Elsewhere the lower tree shows through. -/
theorem Sorted.part?_overlay_of_not_covers {upper : Document} (sorted : upper.Sorted)
    (lower : Document) {path : List String} (shown : ¬ upper.Covers path) :
    (lower.overlay upper).part? path = lower.part? path := by
  induction path generalizing lower upper with
  | nil => exact absurd (.inl upper.part?_nil_ne_none) shown
  | cons key keys ih =>
    cases upper with
    | table entries =>
      rw [part?, part?, sorted.child?_overlay]
      cases isChild : entries.lookup key with
      | none => rfl
      | some laid =>
        have shown_child : ¬ laid.Covers keys := fun covers =>
          shown (covers_table_iff.mpr ⟨laid, isChild, covers⟩)
        cases lower.child? key with
        | some old => exact ih (sorted.of_lookup isChild) old shown_child
        | none =>
          cases found : laid.part? keys with
          | none => exact found
          | some part => exact absurd (covers_of_some found) shown_child
    | _ => exact absurd (.inr (hides_of_ne_table (fun _ same => by cases same) key keys)) shown

/-- Laid over a tree it agrees with, a tree adds its parts to those of the other one. -/
theorem Sorted.part?_overlay_iff {lower upper : Document} (sorted : upper.Sorted)
    (agree : ∀ path part, lower.part? path = some part → upper.Covers path →
      upper.part? path = some part)
    {path : List String} {part : Part} :
    (lower.overlay upper).part? path = some part ↔
      lower.part? path = some part ∨ upper.part? path = some part := by
  by_cases covers : upper.Covers path
  · rw [sorted.part?_overlay_of_covers lower covers]
    constructor
    · exact .inr
    · rintro (below | same)
      · exact agree path part below covers
      · exact same
  · rw [sorted.part?_overlay_of_not_covers lower covers]
    constructor
    · exact .inl
    · rintro (below | above)
      · exact below
      · exact absurd (covers_of_some above) covers

/-- Sorted trees with the same parts are the same. -/
theorem Sorted.ext {first second : Document} (sorted : first.Sorted) (sorted' : second.Sorted)
    (same : ∀ path, first.part? path = second.part? path) : first = second := by
  induction sorted generalizing second with
  | value document notTable =>
    have atRoot := same []
    rw [part?_nil_of_ne_table notTable] at atRoot
    cases second with
    | table entries => cases atRoot
    | _ => cases atRoot; rfl
  | table entries ordered each ih =>
    have atRoot := same []
    cases second with
    | table entries' =>
      rw [ordered.ext sorted'.ordered]
      intro key
      have below (keys : List String) :
          (entries.lookup key).bind (part? keys) = (entries'.lookup key).bind (part? keys) :=
        same (key :: keys)
      cases found : entries.lookup key with
      | none =>
        cases found' : entries'.lookup key with
        | none => rfl
        | some child' =>
          have atChild := below []
          rw [found, found'] at atChild
          exact absurd atChild.symm child'.part?_nil_ne_none
      | some child =>
        cases found' : entries'.lookup key with
        | none =>
          have atChild := below []
          rw [found, found'] at atChild
          exact absurd atChild child.part?_nil_ne_none
        | some child' =>
          rw [found, found'] at below
          exact congrArg some (ih _ (mem_of_lookup found) (sorted'.of_lookup found') below)
    | _ => cases atRoot

end Document

end ListQuery
