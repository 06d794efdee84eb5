import ListQuery.Proofs.Settings.Variables
import ListQuery.Proofs.Toml.Sorted
import ListQuery.Settings.Load

/-!
# Layers: the settings of a file and of variables

Settings are read from one tree, laid together from the defaults, a file and the variables. Which of
them counts is decided path by path (`Resolves`), and only one tree is decided so (`Resolves.unique`).
What the decision does not look at cannot matter: neither a value of the file that a variable
replaces (`Resolves.of_sameUnder`) nor the order of the variables.
-/
namespace ListQuery.Settings

open Document (Part)

/-! ## Resolving layers -/

/-- A sorted tree that has at each path what the uppermost layer has that covers the path. -/
structure Resolves (lower middle upper tree : Document) : Prop where
  sorted : tree.Sorted
  of_upper {path : List String} (covers : upper.Covers path) : tree.part? path = upper.part? path
  of_middle {path : List String} (shown : ¬ upper.Covers path) (covers : middle.Covers path) :
    tree.part? path = middle.part? path
  of_lower {path : List String} (shown : ¬ upper.Covers path) (shown' : ¬ middle.Covers path) :
    tree.part? path = lower.part? path

theorem resolves_overlay {lower middle upper : Document} (lower_sorted : lower.Sorted)
    (middle_sorted : middle.Sorted) (upper_sorted : upper.Sorted) :
    Resolves lower middle upper ((lower.overlay middle).overlay upper) where
  sorted := (lower_sorted.overlay middle_sorted).overlay upper_sorted
  of_upper covers := upper_sorted.part?_overlay_of_covers _ covers
  of_middle shown covers := by
    rw [upper_sorted.part?_overlay_of_not_covers _ shown,
      middle_sorted.part?_overlay_of_covers lower covers]
  of_lower shown shown' := by
    rw [upper_sorted.part?_overlay_of_not_covers _ shown,
      middle_sorted.part?_overlay_of_not_covers lower shown']

theorem Resolves.unique {lower middle upper tree tree' : Document}
    (resolves : Resolves lower middle upper tree) (resolves' : Resolves lower middle upper tree') :
    tree = tree' := by
  refine resolves.sorted.ext resolves'.sorted fun path => ?_
  by_cases covers : upper.Covers path
  · rw [resolves.of_upper covers, resolves'.of_upper covers]
  · by_cases covers' : middle.Covers path
    · rw [resolves.of_middle covers covers', resolves'.of_middle covers covers']
    · rw [resolves.of_lower covers covers', resolves'.of_lower covers covers']

/-! ## Values that are replaced -/

/-- A tree has a value at a path or above it. -/
def Settles (upper : Document) (path : List String) : Prop :=
  ∃ shorter rest value, path = shorter ++ rest ∧ upper.part? shorter = some (.value value)

/--
Two trees differ only in what an upper tree replaces: they have the same where the upper tree has no
value, except that one value may stand for another where the upper tree has a table.
-/
def SameUnder (upper middle middle' : Document) : Prop :=
  ∀ path, ¬ Settles upper path →
    middle.part? path = middle'.part? path ∨
      upper.part? path = some .table ∧
        ∃ value value', middle.part? path = some (.value value) ∧
          middle'.part? path = some (.value value')

theorem Settles.covers {upper : Document} {path : List String} (settles : Settles upper path) :
    upper.Covers path := by
  obtain ⟨shorter, rest, value, rfl, found⟩ := settles
  by_cases here : rest = []
  · subst here
    rw [List.append_nil]
    exact Document.covers_of_some found
  · exact .inr ⟨shorter, rest, value, rfl, here, found⟩

section

variable {lower middle middle' upper tree : Document}

theorem SameUnder.symm (same : SameUnder upper middle middle') :
    SameUnder upper middle' middle := by
  intro path unsettled
  rcases same path unsettled with equal | ⟨isTable, value, value', found, found'⟩
  · exact .inl equal.symm
  · exact .inr ⟨isTable, value', value, found', found⟩

theorem SameUnder.part?_eq (same : SameUnder upper middle middle') {path : List String}
    (shown : ¬ upper.Covers path) : middle.part? path = middle'.part? path := by
  rcases same path fun settles => shown settles.covers with equal | ⟨isTable, _⟩
  · exact equal
  · exact absurd (Document.covers_of_some isTable) shown

theorem SameUnder.covers (same : SameUnder upper middle middle') {path : List String}
    (shown : ¬ upper.Covers path) (covers : middle.Covers path) : middle'.Covers path := by
  rcases covers with present | ⟨shorter, rest, value, rfl, below, found⟩
  · exact .inl (same.part?_eq shown ▸ present)
  · -- Above the path the upper tree may have a table, so values may differ there.
    have unsettled : ¬ Settles upper shorter := by
      rintro ⟨shortest, between, above, rfl, settled⟩
      exact shown (Settles.covers ⟨shortest, between ++ rest, above, List.append_assoc .., settled⟩)
    rcases same shorter unsettled with equal | ⟨_, _, value', _, found'⟩
    · exact .inr ⟨shorter, rest, value, rfl, below, equal ▸ found⟩
    · exact .inr ⟨shorter, rest, value', rfl, below, found'⟩

/-- Values that are replaced have no part in the tree. -/
theorem Resolves.of_sameUnder (resolves : Resolves lower middle upper tree)
    (same : SameUnder upper middle middle') : Resolves lower middle' upper tree where
  sorted := resolves.sorted
  of_upper := resolves.of_upper
  of_middle shown covers := by
    rw [← same.part?_eq shown]
    exact resolves.of_middle shown (same.symm.covers shown covers)
  of_lower shown shown' :=
    resolves.of_lower shown fun covers => shown' (same.covers shown covers)

end

/-! ## Settings of a file -/

theorem defaults_sorted : defaults.Sorted := by
  have parameters_sorted : (encode ({} : ParameterNames)).Sorted := by
    refine .table _ (by unfold Ordered; decide) fun entry member => ?_
    simp only [List.mem_cons, List.not_mem_nil, or_false] at member
    rcases member with rfl | rfl | rfl | rfl
    all_goals exact .value _ nofun
  refine .table _ (by unfold Ordered; decide) fun entry member => ?_
  simp only [List.mem_cons, List.not_mem_nil, or_false] at member
  rcases member with rfl | rfl | rfl
  · exact .table [] List.Pairwise.nil nofun
  · exact .value _ nofun
  · exact parameters_sorted

theorem ofFile_eq_ofTree {files : Files} (vars : Variables) {path text : String} {file : Document}
    (stored : files path = some text) (parsed : Toml.parse? text = some file) :
    ofFile files vars path = ofTree ((defaults.overlay file).overlay (variablesTree vars)) := by
  rw [ofFile, stored]
  dsimp only
  rw [layFile, parsed]
  rfl

theorem laid_resolves (vars : Variables) {text : String} {file : Document}
    (parsed : Toml.parse? text = some file) :
    Resolves defaults file (variablesTree vars)
      ((defaults.overlay file).overlay (variablesTree vars)) :=
  resolves_overlay defaults_sorted (Toml.parse?_sorted parsed) (variablesTree_sorted vars)

theorem ofTree_eq_ok_iff (tree : Document) (settings : Settings) :
    ofTree tree = .ok settings ↔ decode .ignored tree = .ok settings := by
  unfold ofTree
  split
  next decoded read => rw [read, Except.ok.injEq, Decoded.ok.injEq]
  next read => simp only [read, reduceCtorEq]

/-- The result does not depend on values of the file that variables replace. -/
theorem ofFile_eq_of_sameUnder {files files' : Files} {vars : Variables} {path path' : String}
    {text text' : String} {file file' : Document} (stored : files path = some text)
    (stored' : files' path' = some text') (parsed : Toml.parse? text = some file)
    (parsed' : Toml.parse? text' = some file') (same : SameUnder (variablesTree vars) file file') :
    ofFile files' vars path' = ofFile files vars path := by
  have resolves := (laid_resolves vars parsed).of_sameUnder same
  have resolves' := laid_resolves vars parsed'
  rw [ofFile_eq_ofTree vars stored parsed, ofFile_eq_ofTree vars stored' parsed',
    resolves'.unique resolves]

/-- Variables whose paths lead neither to a value of the file nor past it leave it as it is. -/
theorem Resolves.kept {vars : Variables} {text : String} {file tree : Document}
    (resolves : Resolves defaults file (variablesTree vars) tree) (apart : Apart vars)
    (parsed : Toml.parse? text = some file) {keys : List String} {value : Document}
    (set : file.part? keys = some (.value value))
    (unnamed : ∀ var ∈ vars, ∀ leaf, variablePath? var.1 = some leaf →
      ¬ leaf <+: keys ∧ ¬ keys <+: leaf) :
    tree.part? keys = some (.value value) := by
  have below : keys ≠ [] := by
    rintro rfl
    obtain ⟨entries, rfl⟩ := Toml.parse?_eq_table parsed
    cases set
  rw [resolves.of_middle (apart.not_covers below unnamed) (Document.covers_of_some set), set]

/-! ## Settings without variables -/

theorem layFile_eq_table {text : String} {tree : Document}
    (laid : layFile defaults text = .ok tree) : ∃ entries, tree = .table entries := by
  unfold layFile at laid
  split at laid
  next file parsed =>
    obtain ⟨entries, rfl⟩ := Toml.parse?_eq_table parsed
    cases laid
    exact ⟨_, rfl⟩
  next => cases laid

/-- Where no variable is one of the settings, the settings are those of the text alone. -/
theorem bind_finish_of_foreign {vars : Variables}
    (foreign : ∀ var ∈ vars, variablePath? var.1 = none) (text : String) :
    (layFile defaults text).bind (finish vars) = ofToml text := by
  rw [ofToml]
  cases laid : layFile defaults text with
  | error failure => rfl
  | ok tree =>
    obtain ⟨entries, rfl⟩ := layFile_eq_table laid
    rw [Except.bind, Except.bind, finish, variablesTree_of_foreign foreign]
    rfl

theorem ofFile_of_foreign {files : Files} {vars : Variables} {path text : String}
    (stored : files path = some text) (foreign : ∀ var ∈ vars, variablePath? var.1 = none) :
    ofFile files vars path = ofToml text := by
  rw [ofFile, stored]
  exact bind_finish_of_foreign foreign text

theorem load_of_foreign {files : Files} {vars : Variables} {text : String}
    (noSystemFile : files "/etc/query-directives/config.toml" = none)
    (stored : files "query-directives.toml" = some text)
    (foreign : ∀ var ∈ vars, variablePath? var.1 = none) :
    (load files vars).result = ofToml text := by
  rw [← bind_finish_of_foreign foreign text, load, standardFiles]
  simp only [List.filterMap_cons, noSystemFile, stored, Option.map_none, Option.map_some,
    List.filterMap_nil, List.foldlM_cons, List.foldlM_nil, bind_pure]

/-! ## The settings of a file and of variables -/

/--
Settings from a file and from variables whose paths lie apart, path by path.

* They are decoded from the one tree that has what the variables give, elsewhere what the file has,
  and elsewhere the default; a setting of the file stays where no variable leads to it or past it.
* The variables give their values at the paths that their names spell, in whatever order they come.
* What the file has where a variable gives a value does not matter.
* Without variables the settings are those of the text, from whatever file it is read.
-/
theorem ofFile_resolves {files : Files} {vars : Variables} {path text : String} {file : Document}
    (stored : files path = some text) (parsed : Toml.parse? text = some file)
    (apart : Apart vars) :
    (∃ tree, Resolves defaults file (variablesTree vars) tree ∧
        (∀ tree', Resolves defaults file (variablesTree vars) tree' → tree' = tree) ∧
        ofFile files vars path = ofTree tree ∧
        (∀ settings, ofFile files vars path = .ok settings ↔
          decode .ignored tree = .ok settings) ∧
        ∀ keys value, file.part? keys = some (.value value) →
          (∀ var ∈ vars, ∀ leaf, variablePath? var.1 = some leaf →
            ¬ leaf <+: keys ∧ ¬ keys <+: leaf) →
          tree.part? keys = some (.value value)) ∧
      (∀ keys part, (variablesTree vars).part? keys = some part ↔ Gives vars keys part) ∧
      (∀ rest : String, '.' ∉ rest.toList →
        variablePath? (variablePrefix ++ rest) =
          if (keyParts (lowercase (Text.trim rest.toList))).any List.isEmpty then none
          else some ((keyParts (lowercase (Text.trim rest.toList))).map String.ofList)) ∧
      (∀ vars', vars.Perm vars' → ofFile files vars' path = ofFile files vars path) ∧
      (∀ files' path' text' file', files' path' = some text' → Toml.parse? text' = some file' →
        SameUnder (variablesTree vars) file file' →
        ofFile files' vars path' = ofFile files vars path) ∧
      ∀ (vars' : Variables) (text' : String), (∀ var ∈ vars', variablePath? var.1 = none) →
        (∀ files' path', files' path' = some text' → ofFile files' vars' path' = ofToml text') ∧
          ∀ files', files' "/etc/query-directives/config.toml" = none →
            files' "query-directives.toml" = some text' →
            (load files' vars').result = ofToml text' := by
  have resolves := laid_resolves vars parsed
  have result := ofFile_eq_ofTree vars stored parsed
  refine ⟨⟨_, resolves, ?_, result, ?_, ?_⟩, ?_, ?_, ?_, ?_, ?_⟩
  · intro tree' resolves'
    exact resolves'.unique resolves
  · intro settings
    rw [result, ofTree_eq_ok_iff]
  · intro keys value set unnamed
    exact resolves.kept apart parsed set unnamed
  · intro keys part
    exact part?_variablesTree_iff apart
  · intro rest undotted
    exact variablePath?_prefixed undotted
  · intro vars' permuted
    rw [ofFile_eq_ofTree vars stored parsed, ofFile_eq_ofTree vars' stored parsed,
      apart.variablesTree_perm permuted]
  · intro files' path' text' file' stored' parsed' same
    exact ofFile_eq_of_sameUnder stored stored' parsed parsed' same
  · intro vars' text' foreign
    refine ⟨?_, ?_⟩
    · intro files' path' stored'
      exact ofFile_of_foreign stored' foreign
    · intro files' noSystemFile stored'
      exact load_of_foreign noSystemFile stored' foreign

/-- A fault of the file that a variable repairs, beside a setting of the file and a default. -/
theorem ofFile_resolves_repaired :
    let text := "log_level = \"debug\"\n[parameters]\nsort = 3\n"
    let files : Files := fun _ => some text
    let vars := [("QUERY_DIRECTIVES_PARAMETERS__SORT", "order"), ("HOME", "/root")]
    let settings : Settings := { logLevel := "debug", parameters := { sort := "order" } }
    Toml.parse? text =
        some (.table [("log_level", .text "debug"), ("parameters", .table [("sort", .int 3)])]) ∧
      Apart vars ∧
      ofFile files [] "c.toml" =
        .error (.settings ["parameters", "sort"] "invalid value for `parameters.sort`") ∧
      ofFile files vars "c.toml" = .ok settings ∧
      ∃ tree, decode .ignored tree = .ok settings ∧
        tree.part? ["parameters", "sort"] = some (.value (.text "order")) ∧
        tree.part? ["log_level"] = some (.value (.text "debug")) ∧
        tree.part? ["parameters", "limit"] = some (.value (.text "limit")) := by
  intro text files vars settings
  have stored : files "c.toml" = some text := rfl
  have parsed : Toml.parse? text =
      some (.table [("log_level", .text "debug"), ("parameters", .table [("sort", .int 3)])]) := by
    decide +kernel
  have named : variablePath? "QUERY_DIRECTIVES_PARAMETERS__SORT" = some ["parameters", "sort"] := by
    decide +kernel
  have foreign : variablePath? "HOME" = none := by decide +kernel
  have apart : Apart vars := by
    simp [vars, Apart, foreign]
  have given : variablesTree vars = .table [("parameters", .table [("sort", .text "order")])] := by
    decide +kernel
  have refused : ofFile files [] "c.toml" =
      .error (.settings ["parameters", "sort"] "invalid value for `parameters.sort`") := by
    rw [ofFile_eq_ofTree [] stored parsed]
    rfl
  have loaded : ofFile files vars "c.toml" = .ok settings := by
    rw [ofFile_eq_ofTree vars stored parsed, given]
    rfl
  obtain ⟨⟨tree, resolves, _, _, decoded, kept⟩, _⟩ := ofFile_resolves stored parsed apart
  refine ⟨parsed, apart, refused, loaded, tree, (decoded settings).mp loaded, ?_, ?_, ?_⟩
  · have found : (variablesTree vars).part? ["parameters", "sort"] =
        some (.value (.text "order")) := by
      rw [given]
      rfl
    rw [resolves.of_upper (Document.covers_of_some found), found]
  · refine kept ["log_level"] (.text "debug") rfl fun var member leaf named' => ?_
    simp only [vars, List.mem_cons, List.not_mem_nil, or_false] at member
    rcases member with rfl | rfl
    · rw [named] at named'
      cases named'
      decide
    · rw [foreign] at named'
      cases named'
  · have shown : ¬ (variablesTree vars).Covers ["parameters", "limit"] := by
      simp [given, Document.covers_table_iff, lookup_cons_ite]
    rw [resolves.of_lower shown (by simp [Document.covers_table_iff, lookup_cons_ite])]
    rfl

/--
A variable past a setting of the file takes the setting away, although it names neither the setting
nor a prefix of it; and a blank at the end of a name is no part of the path.
-/
theorem ofFile_setting_displaced :
    variablePath? "QUERY_DIRECTIVES_LOG_LEVEL__X" = some ["log_level", "x"] ∧
      ¬ ["log_level", "x"] <+: ["log_level"] ∧
      ofFile (fun _ => some "log_level = \"debug\"\n") [] "c.toml" = .ok { logLevel := "debug" } ∧
      ofFile (fun _ => some "log_level = \"debug\"\n") [("QUERY_DIRECTIVES_LOG_LEVEL__X", "1")]
          "c.toml" = .error (.settings ["log_level"] "invalid value for `log_level`") ∧
      variablePath? "QUERY_DIRECTIVES_LOG_LEVEL " = some ["log_level"] ∧
      (keyParts (lowercase "LOG_LEVEL ".toList)).map String.ofList = ["log_level "] ∧
      ofFile (fun _ => some "log_level = \"file\"\n") [("QUERY_DIRECTIVES_LOG_LEVEL ", "debug")]
          "c.toml" = .ok { logLevel := "debug" } := by
  have debug_parsed : Toml.parse? "log_level = \"debug\"\n" =
      some (.table [("log_level", .text "debug")]) := by
    decide +kernel
  have file_parsed : Toml.parse? "log_level = \"file\"\n" =
      some (.table [("log_level", .text "file")]) := by
    decide +kernel
  have past : variablesTree [("QUERY_DIRECTIVES_LOG_LEVEL__X", "1")] =
      .table [("log_level", .table [("x", .int 1)])] := by
    decide +kernel
  have blank : variablesTree [("QUERY_DIRECTIVES_LOG_LEVEL ", "debug")] =
      .table [("log_level", .text "debug")] := by
    decide +kernel
  have laid {text : String} {file : Document} (vars : Variables)
      (parsed : Toml.parse? text = some file) : ofFile (fun _ => some text) vars "c.toml" =
        ofTree ((defaults.overlay file).overlay (variablesTree vars)) :=
    ofFile_eq_ofTree vars rfl parsed
  refine ⟨by decide +kernel, by decide, ?_, ?_, by decide +kernel, by decide +kernel, ?_⟩
  · rw [laid [] debug_parsed]
    rfl
  · rw [laid _ debug_parsed, past]
    rfl
  · rw [laid _ file_parsed, blank]
    rfl

end ListQuery.Settings
