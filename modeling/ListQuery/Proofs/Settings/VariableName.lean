import ListQuery.Settings.Variables

/-!
# Variable names: the path that a name gives

The name of a settings variable is the prefix and a path whose keys a double underscore separates.
What the name gives is read off its spelling (`variablePath?_prefixed`): blanks at its end and after
the prefix are dropped, letters are made small, and no key may be empty.
-/
namespace ListQuery.Settings

open Text (isBlank trim trimStart dropWord)

/-! ## Keys -/

/-- The pieces between double underscores, which are looked for from the left. -/
def keyParts : List Char → List (List Char)
  | '_' :: '_' :: rest => [] :: keyParts rest
  | c :: rest => (keyParts rest).modifyHead (c :: ·)
  | [] => [[]]

/-- Where no dot occurs, the dots put in for double underscores are the only ones. -/
theorem splitOn_joinKeys {text : List Char} (undotted : '.' ∉ text) :
    (joinKeys text).splitOn '.' = keyParts text := by
  fun_induction keyParts text with
  | case1 rest ih =>
    have rest_undotted : '.' ∉ rest := fun member =>
      undotted (List.mem_cons_of_mem _ (List.mem_cons_of_mem _ member))
    rw [joinKeys, List.splitOn_eq_splitOnP, List.splitOnP_cons_eq_if_modifyHead,
      if_pos (beq_self_eq_true '.'), ← List.splitOn_eq_splitOnP, ih rest_undotted]
  | case2 c rest single ih =>
    have rest_undotted : '.' ∉ rest := fun member => undotted (List.mem_cons_of_mem _ member)
    have notDot : ¬ (c == '.') = true := fun same =>
      undotted (beq_iff_eq.mp same ▸ List.mem_cons_self)
    rw [joinKeys.eq_2 c rest single, List.splitOn_eq_splitOnP, List.splitOnP_cons_eq_if_modifyHead,
      if_neg notDot, ← List.splitOn_eq_splitOnP, ih rest_undotted]
  | case3 => rfl

theorem keyPath?_joinKeys {text : List Char} (undotted : '.' ∉ text) :
    keyPath? (joinKeys text) =
      if (keyParts text).any List.isEmpty then none
      else some ((keyParts text).map String.ofList) := by
  rw [keyPath?, splitOn_joinKeys undotted]

/-! ## Blanks -/

/-- The text without the blanks at its end. -/
def trimEnd (text : List Char) : List Char := (text.reverse.dropWhile isBlank).reverse

theorem trim_eq (text : List Char) : trim text = trimEnd (trimStart text) := rfl

theorem trimEnd_append_of_ne_nil (head : List Char) {tail : List Char} (left : trimEnd tail ≠ []) :
    trimEnd (head ++ tail) = head ++ trimEnd tail := by
  rw [trimEnd, List.reverse_append, List.dropWhile_append, if_neg]
  · rw [List.reverse_append, List.reverse_reverse, trimEnd]
  · intro empty
    exact left (by rw [trimEnd, List.isEmpty_iff.mp empty]; rfl)

theorem trimEnd_append_of_eq_nil (head : List Char) {tail : List Char} (dropped : trimEnd tail = []) :
    trimEnd (head ++ tail) = trimEnd head := by
  rw [trimEnd, List.reverse_append, List.dropWhile_append, if_pos, trimEnd]
  exact List.isEmpty_iff.mpr (List.reverse_eq_nil_iff.mp dropped)

theorem trimEnd_cons (c : Char) (rest : List Char) :
    trimEnd (c :: rest) =
      if isBlank c ∧ trimEnd rest = [] then [] else c :: trimEnd rest := by
  by_cases dropped : trimEnd rest = []
  · have cut : trimEnd (c :: rest) = trimEnd [c] := trimEnd_append_of_eq_nil [c] dropped
    rw [cut, dropped]
    cases blank : isBlank c with
    | true => simp [trimEnd, blank]
    | false => simp [trimEnd, blank]
  · rw [if_neg fun both => dropped both.2]
    exact trimEnd_append_of_ne_nil [c] dropped

theorem trimStart_joinKeys (text : List Char) :
    trimStart (joinKeys text) = joinKeys (trimStart text) := by
  fun_induction joinKeys text with
  | case1 rest ih => rfl
  | case2 c rest single ih =>
    rw [trimStart, trimStart, List.dropWhile_cons, List.dropWhile_cons]
    split
    next => exact ih
    next => rw [joinKeys.eq_2 c rest single]
  | case3 => rfl

theorem joinKeys_eq_nil_iff {text : List Char} : joinKeys text = [] ↔ text = [] := by
  fun_cases joinKeys text with
  | case1 rest => simp
  | case2 c rest single => simp
  | case3 => simp

/-- Blanks are no underscores, so it does not matter whether they are dropped before or after. -/
theorem trimEnd_joinKeys (text : List Char) :
    trimEnd (joinKeys text) = joinKeys (trimEnd text) := by
  fun_induction joinKeys text with
  | case1 rest ih =>
    have underscore : ¬ isBlank '_' := by decide
    have dot : ¬ isBlank '.' := by decide
    rw [trimEnd_cons, trimEnd_cons, trimEnd_cons, if_neg fun both => dot both.1,
      if_neg fun both => underscore both.1, if_neg fun both => underscore both.1, joinKeys, ih]
  | case2 c rest single ih =>
    rw [trimEnd_cons, trimEnd_cons, ih]
    by_cases dropped : isBlank c ∧ trimEnd rest = []
    · rw [if_pos dropped, if_pos ⟨dropped.1, joinKeys_eq_nil_iff.mpr dropped.2⟩]
      rfl
    · rw [if_neg dropped, if_neg fun both => dropped ⟨both.1, joinKeys_eq_nil_iff.mp both.2⟩,
        joinKeys]
      -- What is dropped comes last, so no pair of underscores is made by it.
      intro after isUnderscore starts
      cases rest with
      | nil => cases starts
      | cons d rest =>
        rw [trimEnd_cons] at starts
        split at starts
        next => cases starts
        next =>
          cases starts
          exact single rest isUnderscore rfl
  | case3 => rfl

theorem trim_joinKeys (text : List Char) : trim (joinKeys text) = joinKeys (trim text) := by
  rw [trim_eq, trimStart_joinKeys, trimEnd_joinKeys, ← trim_eq]

theorem trimEnd_trimEnd (text : List Char) : trimEnd (trimEnd text) = trimEnd text := by
  induction text with
  | nil => rfl
  | cons c rest ih =>
    rw [trimEnd_cons]
    split
    next => rfl
    next kept => rw [trimEnd_cons, ih, if_neg kept]

theorem trim_trimEnd (text : List Char) : trim (trimEnd text) = trim text := by
  induction text with
  | nil => rfl
  | cons c rest ih =>
    cases blank : isBlank c with
    | true =>
      have skip (tail : List Char) : trim (c :: tail) = trim tail := by
        rw [trim_eq, trimStart, List.dropWhile_cons_of_pos blank, ← trimStart, ← trim_eq]
      rw [skip, ← ih, trimEnd_cons]
      split
      next dropped => rw [dropped.2]
      next => rw [skip]
    | false =>
      have notBlank : ¬ isBlank c := by simp [blank]
      have keep (tail : List Char) : trim (c :: tail) = c :: trimEnd tail := by
        rw [trim_eq, trimStart, List.dropWhile_cons_of_neg notBlank, trimEnd_cons,
          if_neg fun both => notBlank both.1]
      rw [trimEnd_cons, if_neg fun both => notBlank both.1, keep, keep, trimEnd_trimEnd]

theorem mem_of_mem_trim {c : Char} {text : List Char} (member : c ∈ trim text) : c ∈ text := by
  have member_start : c ∈ trimStart text :=
    List.mem_reverse.mp ((List.dropWhile_sublist _).subset (List.mem_reverse.mp member))
  exact (List.dropWhile_sublist _).subset member_start

/-! ## Letters -/

theorem isBlank_of_visible {c : Char} (low : 0x20 < c.toNat) (high : c.toNat < 0x80) :
    isBlank c = false := by
  simp only [isBlank, Bool.or_eq_false_iff, Bool.and_eq_false_iff, decide_eq_false_iff_not,
    beq_eq_false_iff_ne]
  omega

theorem toNat_toLower_of_upper {c : Char} (upper : 65 ≤ c.toNat ∧ c.toNat ≤ 90) :
    c.toLower.toNat = c.toNat + 32 := by
  have inRange : c.val ≥ 'A'.val ∧ c.val ≤ 'Z'.val := by
    rw [ge_iff_le, UInt32.le_iff_toNat_le, UInt32.le_iff_toNat_le]
    exact upper
  have small : c.val.toNat ≤ 90 := upper.2
  unfold Char.toLower
  rw [dif_pos inRange]
  change (c.val + ('a'.val - 'A'.val)).toNat = c.val.toNat + 32
  rw [UInt32.toNat_add, show ('a'.val - 'A'.val).toNat = 32 from rfl]
  omega

theorem toLower_of_not_upper {c : Char} (other : ¬ (65 ≤ c.toNat ∧ c.toNat ≤ 90)) :
    c.toLower = c := by
  unfold Char.toLower
  rw [dif_neg]
  intro inRange
  rw [ge_iff_le, UInt32.le_iff_toNat_le, UInt32.le_iff_toNat_le] at inRange
  exact other inRange

theorem isBlank_toLower (c : Char) : isBlank c.toLower = isBlank c := by
  by_cases upper : 65 ≤ c.toNat ∧ c.toNat ≤ 90
  · have shifted := toNat_toLower_of_upper upper
    rw [isBlank_of_visible (by omega) (by omega), isBlank_of_visible (by omega) (by omega)]
  · rw [toLower_of_not_upper upper]

theorem eq_dot_of_toLower {c : Char} (small : c.toLower = '.') : c = '.' := by
  by_cases upper : 65 ≤ c.toNat ∧ c.toNat ≤ 90
  · have shifted := toNat_toLower_of_upper upper
    rw [small, show '.'.toNat = 46 from rfl] at shifted
    omega
  · rwa [toLower_of_not_upper upper] at small

theorem not_mem_lowercase {text : List Char} (undotted : '.' ∉ text) : '.' ∉ lowercase text := by
  intro member
  obtain ⟨c, inText, small⟩ := List.mem_map.mp member
  exact undotted (eq_dot_of_toLower small ▸ inText)

theorem isBlank_comp_toLower : isBlank ∘ Char.toLower = isBlank := funext isBlank_toLower

theorem trim_lowercase (text : List Char) : trim (lowercase text) = lowercase (trim text) := by
  rw [trim, trim, trimStart, trimStart, lowercase, lowercase, List.dropWhile_map,
    isBlank_comp_toLower, ← List.map_reverse, List.dropWhile_map, isBlank_comp_toLower,
    List.map_reverse]

/-! ## Names -/

theorem trim_variablePrefix_append (rest : List Char) :
    trim (variablePrefix.toList ++ rest) = variablePrefix.toList ++ trimEnd rest := by
  have start : trimStart (variablePrefix.toList ++ rest) = variablePrefix.toList ++ rest := rfl
  rw [trim_eq, start]
  by_cases dropped : trimEnd rest = []
  · rw [trimEnd_append_of_eq_nil _ dropped, dropped]
    rfl
  · rw [trimEnd_append_of_ne_nil _ dropped]

/-- What the name of a settings variable gives, for any spelling without a dot. -/
theorem variablePath?_prefixed {rest : String} (undotted : '.' ∉ rest.toList) :
    variablePath? (variablePrefix ++ rest) =
      if (keyParts (lowercase (trim rest.toList))).any List.isEmpty then none
      else some ((keyParts (lowercase (trim rest.toList))).map String.ofList) := by
  have trimmed_undotted : '.' ∉ lowercase (trim rest.toList) :=
    not_mem_lowercase fun member => undotted (mem_of_mem_trim member)
  rw [variablePath?, String.toList_append, trim_variablePrefix_append, lowercase, lowercase,
    List.map_append, Text.dropWord_append, Option.bind_some, trim_joinKeys, ← lowercase, trim_lowercase,
    trim_trimEnd, keyPath?_joinKeys trimmed_undotted]

/-- The path of a settings variable has a key. -/
theorem ne_nil_of_variablePath? {name : String} {path : List String}
    (named : variablePath? name = some path) : path ≠ [] := by
  obtain ⟨rest, _, keys⟩ := Option.bind_eq_some_iff.mp named
  unfold keyPath? at keys
  dsimp only at keys
  split at keys
  next => cases keys
  next =>
    cases keys
    intro empty
    exact List.splitOn_ne_nil _ _ (List.map_eq_nil_iff.mp empty)

end ListQuery.Settings
