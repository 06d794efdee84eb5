import Mathlib.Data.List.Induction
import ListQuery.Proofs.Document.Overlay
import ListQuery.Proofs.Settings.VariableName

/-!
# Variables: the tree that all of them give

Variables whose paths lie apart do not disturb each other: the tree of all of them has at a path
what one of them gives there (`part?_variablesTree_iff`), in whatever order they come.
-/
namespace ListQuery.Settings

open Document (Part Hides nest)

/-! ## Values -/

theorem plainValue_sorted (word : List Char) : (plainValue word).Sorted := by
  unfold plainValue
  split
  next number _ read =>
    split at read
    next =>
      unfold float? at read
      dsimp only at read
      split at read
      next =>
        split at read
        next =>
          cases read
          exact .value _ nofun
        next => cases read
      next => cases read
    next => cases read
  next => exact .value _ nofun
  next => exact .value _ nofun

/-- With so much fuel, what is read as a value is sorted. -/
def ReadsSorted (fuel : Nat) : Prop :=
  ∀ {input value rest}, readValue fuel input = some (value, rest) → value.Sorted

/-- With so much fuel, reading entries keeps a table sorted. -/
def KeepsSorted (fuel : Nat) : Prop :=
  ∀ {entries input read rest}, (Document.table entries).Sorted →
    readEntries fuel entries input = some (read, rest) → (Document.table read).Sorted

theorem KeepsSorted.readValue {fuel : Nat} (keeps : KeepsSorted fuel) : ReadsSorted (fuel + 1) := by
  intro input value rest read
  unfold Settings.readValue at read
  dsimp only at read
  obtain ⟨⟨document, tail⟩, inner, same⟩ := Option.map_eq_some_iff.mp read
  cases same
  split at inner
  next =>
    cases inner
    exact .value _ nofun
  next =>
    cases inner
    exact .value _ nofun
  next =>
    split at inner
    next =>
      obtain ⟨⟨entries, tail⟩, entriesRead, same⟩ := Option.map_eq_some_iff.mp inner
      cases same
      split at entriesRead
      next =>
        cases entriesRead
        exact .table [] List.Pairwise.nil nofun
      next => exact keeps (.table [] List.Pairwise.nil nofun) entriesRead
    next =>
      obtain ⟨_, _, same⟩ := Option.map_eq_some_iff.mp inner
      cases same
      exact .value _ nofun
    next =>
      obtain ⟨_, _, same⟩ := Option.map_eq_some_iff.mp inner
      cases same
      exact .value _ nofun
    next =>
      cases inner
      exact .value _ nofun
    next => cases inner
    next =>
      cases inner
      exact plainValue_sorted _

theorem KeepsSorted.readEntries {fuel : Nat} (keeps : KeepsSorted fuel) (reads : ReadsSorted fuel) :
    KeepsSorted (fuel + 1) := by
  intro entries input read rest sorted done
  unfold Settings.readEntries at done
  split at done
  next => cases done
  next key tail _ =>
    split at done
    next =>
      split at done
      next valueRead =>
        cases done
        exact sorted.setEntry (reads valueRead)
      next valueRead =>
        cases done
        exact sorted.setEntry (reads valueRead)
      next valueRead => exact keeps (sorted.setEntry (reads valueRead)) done
      next => cases done
    next => cases done

/-- Values and the tables in braces are read by each other, so both are shown sorted at once. -/
theorem reads_sorted (fuel : Nat) : ReadsSorted fuel ∧ KeepsSorted fuel := by
  induction fuel with
  | zero =>
    refine ⟨?_, ?_⟩
    · intro input value rest read
      rw [readValue] at read
      cases read
    · intro entries input read rest _ done
      rw [readEntries] at done
      cases done
  | succ fuel ih =>
    obtain ⟨reads, keeps⟩ := ih
    exact ⟨keeps.readValue, keeps.readEntries reads⟩

theorem variableValue_sorted (text : String) : (variableValue text).Sorted := by
  unfold variableValue
  dsimp only
  split
  next value read => exact (reads_sorted _).1 read
  next => exact .value _ nofun

/-! ## One variable -/

theorem nest_sorted (path : List String) {value : Document} (sorted : value.Sorted) :
    (nest path value).Sorted := by
  induction path with
  | nil => exact sorted
  | cons key keys ih =>
    refine .table _ (List.pairwise_singleton _ _) fun entry member => ?_
    rw [List.mem_singleton.mp member]
    exact ih

/-- A value at the end of a path is found from there on, with nothing but tables on the way. -/
theorem part?_nest_iff {path query : List String} {value : Document} {part : Part} :
    (nest path value).part? query = some part ↔
      (∃ rest, query = path ++ rest ∧ value.part? rest = some part) ∨
        part = .table ∧ ∃ rest, rest ≠ [] ∧ path = query ++ rest := by
  induction path generalizing query with
  | nil =>
    constructor
    · intro found
      exact .inl ⟨query, rfl, found⟩
    · rintro (⟨rest, rfl, found⟩ | ⟨_, rest, below, empty⟩)
      · exact found
      · exact absurd (List.append_eq_nil_iff.mp empty.symm).2 below
  | cons key keys ih =>
    cases query with
    | nil =>
      constructor
      · intro found
        cases found
        exact .inr ⟨rfl, key :: keys, List.cons_ne_nil _ _, rfl⟩
      · rintro (⟨rest, empty, _⟩ | ⟨rfl, _⟩)
        · cases empty
        · rfl
    | cons head tail =>
      rw [nest, Document.part?, Document.child?, lookup_cons_ite]
      by_cases same : head = key
      · subst same
        rw [if_pos rfl, Option.bind_some, ih]
        simp only [List.cons_append, List.cons.injEq, true_and]
      · rw [if_neg same]
        constructor
        · intro found
          cases found
        · rintro (⟨rest, starts, _⟩ | ⟨_, rest, _, starts⟩)
          · exact absurd (List.cons.inj starts).1 same
          · exact absurd (List.cons.inj starts).1.symm same

theorem prefix_of_nest_hides {path query : List String} {value : Document}
    (hides : (nest path value).Hides query) : path <+: query := by
  obtain ⟨shorter, rest, above, rfl, _, found⟩ := hides
  rcases part?_nest_iff.mp found with ⟨within, rfl, _⟩ | ⟨isTable, _⟩
  · exact ⟨within ++ rest, (List.append_assoc ..).symm⟩
  · cases isTable

/-! ## Several variables -/

/-- The path of no settings variable leads to or through the path of another one. -/
def Apart (vars : List (String × String)) : Prop :=
  vars.Pairwise fun first second =>
    ∀ path path', variablePath? first.1 = some path → variablePath? second.1 = some path' →
      ¬ path <+: path' ∧ ¬ path' <+: path

/-- What the variables give at a path, each by itself. -/
inductive Gives (vars : List (String × String)) : List String → Part → Prop where
  | root : Gives vars [] .table
  | above {name value : String} {path rest : List String} (member : (name, value) ∈ vars)
      (named : variablePath? name = some (path ++ rest)) (below : rest ≠ []) :
      Gives vars path .table
  | within {name value : String} {path rest : List String} {part : Part}
      (member : (name, value) ∈ vars) (named : variablePath? name = some path)
      (found : (variableValue value).part? rest = some part) : Gives vars (path ++ rest) part

theorem Gives.of_nest {vars : List (String × String)} {name value : String} {path query : List String}
    {part : Part} (member : (name, value) ∈ vars) (named : variablePath? name = some path)
    (nested : (nest path (variableValue value)).part? query = some part) :
    Gives vars query part := by
  rcases part?_nest_iff.mp nested with ⟨rest, rfl, found⟩ | ⟨rfl, rest, below, rfl⟩
  · exact .within member named found
  · exact .above member named below

/-- Past the root it takes one variable to give something. -/
theorem Gives.exists_nest {vars : List (String × String)} {query : List String} {part : Part}
    (gives : Gives vars query part) :
    query = [] ∧ part = .table ∨
      ∃ name value path, (name, value) ∈ vars ∧ variablePath? name = some path ∧
        (nest path (variableValue value)).part? query = some part := by
  cases gives with
  | root => exact .inl ⟨rfl, rfl⟩
  | above member named below =>
    exact .inr ⟨_, _, _, member, named, part?_nest_iff.mpr (.inr ⟨rfl, _, below, rfl⟩)⟩
  | within member named found =>
    exact .inr ⟨_, _, _, member, named, part?_nest_iff.mpr (.inl ⟨_, rfl, found⟩)⟩

theorem Gives.mono {vars vars' : List (String × String)} (more : ∀ var ∈ vars, var ∈ vars')
    {path : List String} {part : Part} (gives : Gives vars path part) :
    Gives vars' path part := by
  cases gives with
  | root => exact .root
  | above member named below => exact .above (more _ member) named below
  | within member named found => exact .within (more _ member) named found

/-- Where a variable gives something, it is on the way to its path or past it. -/
theorem Gives.exists_path {vars : List (String × String)} {query : List String} {part : Part}
    (gives : Gives vars query part) :
    query = [] ∧ part = .table ∨ ∃ var ∈ vars, ∃ path, variablePath? var.1 = some path ∧
      (path <+: query ∨ query <+: path ∧ part = .table) := by
  cases gives with
  | root => exact .inl ⟨rfl, rfl⟩
  | above member named below =>
    exact .inr ⟨_, member, _, named, .inr ⟨List.prefix_append _ _, rfl⟩⟩
  | within member named found =>
    exact .inr ⟨_, member, _, named, .inl (List.prefix_append _ _)⟩

/-- Where values at two paths apart both give something, they give tables. -/
theorem nests_meet_in_tables {path path' query : List String} {value value' : Document}
    {part part' : Part} (apart : ¬ path <+: path' ∧ ¬ path' <+: path)
    (found : (nest path value).part? query = some part)
    (found' : (nest path' value').part? query = some part') :
    part = .table ∧ part' = .table := by
  rcases part?_nest_iff.mp found with ⟨rest, rfl, _⟩ | ⟨isTable, rest, _, rfl⟩
  · rcases part?_nest_iff.mp found' with ⟨rest', same, _⟩ | ⟨_, rest', _, rfl⟩
    · rcases List.prefix_or_prefix_of_prefix ⟨rest, same⟩ (List.prefix_append path' rest') with
        leads | leads
      · exact absurd leads apart.1
      · exact absurd leads apart.2
    · exact absurd ⟨rest ++ rest', (List.append_assoc ..).symm⟩ apart.1
  · rcases part?_nest_iff.mp found' with ⟨rest', rfl, _⟩ | ⟨isTable', _⟩
    · exact absurd ⟨rest' ++ rest, (List.append_assoc ..).symm⟩ apart.2
    · exact ⟨isTable, isTable'⟩

/-- Where a value is hidden by one at a path apart, it gives nothing. -/
theorem not_nest_of_hides {path path' query : List String} {value value' : Document} {part : Part}
    (apart : ¬ path <+: path' ∧ ¬ path' <+: path) (hides : (nest path' value').Hides query) :
    (nest path value).part? query ≠ some part := by
  intro found
  have leads := prefix_of_nest_hides hides
  rcases part?_nest_iff.mp found with ⟨rest, rfl, _⟩ | ⟨_, rest, _, rfl⟩
  · rcases List.prefix_or_prefix_of_prefix (List.prefix_append path rest) leads with
      leads | leads
    · exact absurd leads apart.1
    · exact absurd leads apart.2
  · exact absurd (leads.trans (List.prefix_append query rest)) apart.2

theorem variablesTree_append_singleton (vars : List (String × String)) (name value : String) :
    variablesTree (vars ++ [(name, value)]) =
      match variablePath? name with
      | none => variablesTree vars
      | some path => (variablesTree vars).overlay (nest path (variableValue value)) := by
  rw [variablesTree, List.filterMap_append, List.foldl_append, ← variablesTree]
  cases named : variablePath? name with
  | none => simp [variableTree?, named]
  | some path => simp [variableTree?, named]

theorem variablesTree_sorted (vars : List (String × String)) : (variablesTree vars).Sorted := by
  induction vars using List.reverseRecOn with
  | nil => exact .table [] List.Pairwise.nil nofun
  | append_singleton vars var ih =>
    obtain ⟨name, value⟩ := var
    rw [variablesTree_append_singleton]
    split
    next => exact ih
    next path _ => exact ih.overlay (nest_sorted path (variableValue_sorted value))

theorem gives_append_singleton_iff {vars : List (String × String)} {name value : String}
    {query : List String} {part : Part} :
    Gives (vars ++ [(name, value)]) query part ↔
      Gives vars query part ∨ ∃ path, variablePath? name = some path ∧
        (nest path (variableValue value)).part? query = some part := by
  constructor
  · intro gives
    rcases gives.exists_nest with ⟨rfl, rfl⟩ | ⟨name', value', path, member, named, nested⟩
    · exact .inl .root
    · rcases List.mem_append.mp member with member | member
      · exact .inl (.of_nest member named nested)
      · cases List.mem_singleton.mp member
        exact .inr ⟨path, named, nested⟩
  · rintro (gives | ⟨path, named, nested⟩)
    · exact gives.mono fun var member => List.mem_append_left _ member
    · exact .of_nest (List.mem_append_right _ List.mem_cons_self) named nested

/-- A variable apart from others agrees with all that they give. -/
theorem Gives.agree {vars : List (String × String)} {name value : String} {leaf query : List String}
    {part : Part} (apart : Apart (vars ++ [(name, value)])) (named : variablePath? name = some leaf)
    (gives : Gives vars query part) (covers : (nest leaf (variableValue value)).Covers query) :
    (nest leaf (variableValue value)).part? query = some part := by
  rcases gives.exists_nest with ⟨rfl, rfl⟩ | ⟨name', value', path, member, named', nested⟩
  · exact part?_nest_iff.mpr (.inr ⟨rfl, leaf, ne_nil_of_variablePath? named, rfl⟩)
  · have across := (List.pairwise_append.mp apart).2.2 (name', value') member (name, value)
      List.mem_cons_self
    have paths_apart := across path leaf named' named
    -- Paths apart share nothing but tables above both, and neither hides the other.
    rcases covers with present | hides
    · obtain ⟨laid, found⟩ := Option.ne_none_iff_exists'.mp present
      obtain ⟨rfl, rfl⟩ := nests_meet_in_tables paths_apart nested found
      exact found
    · exact absurd nested (not_nest_of_hides paths_apart hides)

/-- The tree of all variables has at a path what one of them gives there. -/
theorem part?_variablesTree_iff {vars : List (String × String)} (apart : Apart vars)
    {path : List String} {part : Part} :
    (variablesTree vars).part? path = some part ↔ Gives vars path part := by
  -- The last variable is laid over the tree of those before it.
  induction vars using List.reverseRecOn generalizing path part with
  | nil =>
    constructor
    · intro found
      cases path with
      | nil =>
        cases found
        exact .root
      | cons key keys => cases found
    · intro gives
      rcases gives.exists_nest with ⟨rfl, rfl⟩ | ⟨_, _, _, member, _⟩
      · rfl
      · cases member
  | append_singleton vars var ih =>
    obtain ⟨name, value⟩ := var
    have before {path : List String} {part : Part} :
        (variablesTree vars).part? path = some part ↔ Gives vars path part :=
      ih (List.pairwise_append.mp apart).1
    rw [variablesTree_append_singleton, gives_append_singleton_iff]
    cases named : variablePath? name with
    | none => simpa using before
    | some leaf =>
      have leaf_sorted := nest_sorted leaf (variableValue_sorted value)
      dsimp only
      rw [leaf_sorted.part?_overlay_iff fun _ _ found => (before.mp found).agree apart named, before]
      simp only [Option.some.injEq, exists_eq_left']

/-- Below the root, a path is covered only if a variable leads to it or past it. -/
theorem Apart.not_covers {vars : List (String × String)} (apart : Apart vars) {keys : List String}
    (below : keys ≠ [])
    (unnamed : ∀ var ∈ vars, ∀ leaf, variablePath? var.1 = some leaf →
      ¬ leaf <+: keys ∧ ¬ keys <+: leaf) :
    ¬ (variablesTree vars).Covers keys := by
  rintro (present | ⟨shorter, rest, value, rfl, _, found⟩)
  · obtain ⟨part, found⟩ := Option.ne_none_iff_exists'.mp present
    have gives := (part?_variablesTree_iff apart).mp found
    rcases gives.exists_path with ⟨empty, _⟩ | ⟨var, member, leaf, named, leads | ⟨passes, _⟩⟩
    · exact below empty
    · exact (unnamed var member leaf named).1 leads
    · exact (unnamed var member leaf named).2 passes
  · -- A value hides the path, and only at or past the end of a variable's path are there values.
    have gives := (part?_variablesTree_iff apart).mp found
    rcases gives.exists_path with ⟨_, isTable⟩ | ⟨var, member, leaf, named, leads | ⟨_, isTable⟩⟩
    · cases isTable
    · exact (unnamed var member leaf named).1 (leads.trans (List.prefix_append _ _))
    · cases isTable

theorem Apart.perm {vars vars' : List (String × String)} (apart : Apart vars)
    (permuted : vars.Perm vars') : Apart vars' := by
  refine (permuted.pairwise_iff fun {first second} paths_apart path path' named named' => ?_).mp apart
  exact (paths_apart path' path named' named).symm

/-- Variables apart give the same tree in whatever order they come. -/
theorem Apart.variablesTree_perm {vars vars' : List (String × String)} (apart : Apart vars)
    (permuted : vars.Perm vars') : variablesTree vars = variablesTree vars' := by
  refine (variablesTree_sorted vars).ext (variablesTree_sorted vars') fun path => ?_
  refine Option.ext fun part => ?_
  rw [part?_variablesTree_iff apart, part?_variablesTree_iff (apart.perm permuted)]
  constructor
  · exact Gives.mono fun var => permuted.mem_iff.mp
  · exact Gives.mono fun var => permuted.mem_iff.mpr

theorem variablesTree_of_foreign {vars : List (String × String)}
    (foreign : ∀ var ∈ vars, variablePath? var.1 = none) : variablesTree vars = .table [] := by
  rw [variablesTree, List.filterMap_eq_nil_iff.mpr]
  · rfl
  · intro var member
    obtain ⟨name, value⟩ := var
    exact congrArg (Option.map _) (foreign _ member)

end ListQuery.Settings
