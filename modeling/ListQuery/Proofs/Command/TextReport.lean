import ListQuery.Command.Report
import ListQuery.Proofs.Codec.Lossless
import ListQuery.Proofs.Request.Acceptance
import ListQuery.Proofs.Text.Split

/-!
# Reports in text: accepted directives can be told from what is said about them

A report is a heading, the filters, the order and the window (`toList_accepted_text`). The window is the
last line, so that the order may hold any text, line breaks included. The filters end at the first
line that is not indented like one, and each is told by the blanks in its line. Of directives that a
request was accepted with nothing is lost (`text_report_injective`).
-/
namespace ListQuery

theorem Rule.name_clear (rule : Rule) : ' ' ∉ rule.name.toList ∧ '\n' ∉ rule.name.toList := by
  cases rule <;> decide

theorem Rule.name_injective {first second : Rule} (same : first.name = second.name) :
    first = second :=
  encode_injective (congrArg Document.text same)

namespace Command

/-! ## Parts of a report -/

/-- A line for each filter. -/
def filterRows (criteria : List Criterion) : List Char :=
  criteria.flatMap fun criterion => '\n' :: (filterLine false criterion).toList

/-- What stands after `filters:`, which is a word on the same line if there are none. -/
def filtersDetail (criteria : List Criterion) : List Char :=
  if criteria.isEmpty then " none".toList else filterRows criteria

def sortDetail : Option SortKey → List Char
  | some key => key.text.toList
  | none => "none".toList

theorem toList_filterLine (criterion : Criterion) :
    (filterLine false criterion).toList =
      "    ".toList ++ (criterion.property.toList ++ ' ' ::
        (criterion.rule.name.toList ++ ' ' :: (criterion.value.getD "").toList)) := by
  simp [filterLine, Text.paint]

theorem toList_sortLine (sort : Option SortKey) :
    (sortLine false sort).toList = "  sort: ".toList ++ sortDetail sort := by
  cases sort with
  | none => rfl
  | some key => simp [sortLine, sortDetail, Text.paint]

theorem toList_windowLine (window : Window) :
    (windowLine false window).toList =
      "  pagination: page ".toList ++ ((toString window.page.toNat).toList ++ ' ' ::
        ("limit ".toList ++ ((toString window.limit.toNat).toList ++ ' ' ::
          ("offset ".toList ++ (toString window.offset.toNat).toList)))) := by
  simp [windowLine, Text.paint]

theorem flatMap_filterLines (criteria : List Criterion) :
    (filterLines false criteria).flatMap (fun line => '\n' :: line.toList) =
      "\n  filters:".toList ++ filtersDetail criteria := by
  unfold filterLines filtersDetail
  split
  next => rfl
  next => simp [filterRows, Text.paint, List.flatMap_map]

theorem toList_accepted_text (directives : Directives) :
    (accepted .text false directives).toList =
      "✓ query accepted\n  filters:".toList ++ (filtersDetail directives.filters ++ '\n' ::
        ("  sort: ".toList ++ (sortDetail directives.sort ++ '\n' ::
          (windowLine false directives.window).toList))) := by
  have newline : "\n".toList = ['\n'] := rfl
  rw [accepted, acceptedLines, String.toList_intercalate, newline, List.append_assoc,
    List.singleton_append, List.map_cons, Text.intercalate_cons, List.flatMap_map,
    List.flatMap_append, flatMap_filterLines, List.flatMap_cons, List.flatMap_singleton,
    toList_sortLine]
  simp [Text.paint]

/-! ## Each part is told from the others -/

theorem filterLine_inj {first second : Criterion} (formed : first.WellFormed)
    (formed' : second.WellFormed)
    (same : (filterLine false first).toList = (filterLine false second).toList) :
    first = second := by
  rw [toList_filterLine, toList_filterLine] at same
  obtain ⟨properties, rests⟩ := Text.cut_first_inj (formed.not_mem_property rfl)
    (formed'.not_mem_property rfl) (List.append_cancel_left same)
  obtain ⟨names, values⟩ :=
    Text.cut_first_inj first.rule.name_clear.1 second.rule.name_clear.1 rests
  have rules := Rule.name_injective (String.toList_inj.mp names)
  have valuesEq := formed.value_eq formed' rules (String.toList_inj.mp values)
  obtain ⟨property, rule, value⟩ := first
  cases String.toList_inj.mp properties
  cases rules
  cases valuesEq
  rfl

theorem newline_not_mem_filterLine {criterion : Criterion} (formed : criterion.WellFormed) :
    '\n' ∉ (filterLine false criterion).toList := by
  have property : '\n' ∉ criterion.property.toList := formed.not_mem_property rfl
  have value : '\n' ∉ (criterion.value.getD "").toList := formed.not_mem_value rfl
  simp [toList_filterLine, property, value, criterion.rule.name_clear.2]

theorem filterRows_cons (criterion : Criterion) (others : List Criterion) (rest : List Char) :
    filterRows (criterion :: others) ++ rest =
      '\n' :: ((filterLine false criterion).toList ++ (filterRows others ++ rest)) := by
  simp [filterRows]

/-- After a filter there is always another line. -/
theorem filterRows_newline (criteria : List Criterion) (rest : List Char) :
    ∃ after, filterRows criteria ++ '\n' :: rest = '\n' :: after := by
  cases criteria with
  | nil => exact ⟨rest, rfl⟩
  | cons criterion others => exact ⟨_, filterRows_cons criterion others _⟩

/-- No line of a filter is taken for that of the order, which is not indented as far. -/
theorem filterRows_ne_sort (criterion : Criterion) (others : List Criterion)
    (rest rest' : List Char) :
    filterRows (criterion :: others) ++ rest ≠ '\n' :: ("  sort: ".toList ++ rest') := by
  intro same
  rw [filterRows_cons, toList_filterLine] at same
  simp at same

/-- The filters are told from their lines, whatever follows the line of the order. -/
theorem filterRows_inj {first second : List Criterion} {rest rest' : List Char}
    (formed : ∀ criterion ∈ first, criterion.WellFormed)
    (formed' : ∀ criterion ∈ second, criterion.WellFormed)
    (same : filterRows first ++ '\n' :: ("  sort: ".toList ++ rest) =
      filterRows second ++ '\n' :: ("  sort: ".toList ++ rest')) :
    first = second ∧ rest = rest' := by
  induction first generalizing second with
  | nil =>
    cases second with
    | nil => exact ⟨rfl, List.append_cancel_left (List.cons.inj same).2⟩
    | cons criterion others => exact absurd same.symm (filterRows_ne_sort criterion others _ _)
  | cons criterion others ih =>
    cases second with
    | nil => exact absurd same (filterRows_ne_sort criterion others _ _)
    | cons criterion' others' =>
      obtain ⟨head, formed⟩ := List.forall_mem_cons.mp formed
      obtain ⟨head', formed'⟩ := List.forall_mem_cons.mp formed'
      obtain ⟨after, next⟩ := filterRows_newline others ("  sort: ".toList ++ rest)
      obtain ⟨after', next'⟩ := filterRows_newline others' ("  sort: ".toList ++ rest')
      rw [filterRows_cons, filterRows_cons, next, next'] at same
      obtain ⟨lines, afters⟩ := Text.cut_first_inj (newline_not_mem_filterLine head)
        (newline_not_mem_filterLine head') (List.cons.inj same).2
      have later : filterRows others ++ '\n' :: ("  sort: ".toList ++ rest) =
          filterRows others' ++ '\n' :: ("  sort: ".toList ++ rest') := by
        rw [next, next', afters]
      obtain ⟨rfl, rests⟩ := ih formed formed' later
      exact ⟨congrArg (· :: others) (filterLine_inj head head' lines), rests⟩

theorem filtersDetail_inj {first second : List Criterion} {rest rest' : List Char}
    (formed : ∀ criterion ∈ first, criterion.WellFormed)
    (formed' : ∀ criterion ∈ second, criterion.WellFormed)
    (same : filtersDetail first ++ '\n' :: ("  sort: ".toList ++ rest) =
      filtersDetail second ++ '\n' :: ("  sort: ".toList ++ rest')) :
    first = second ∧ rest = rest' := by
  -- A blank follows `filters:` if there are none, and otherwise a line break.
  cases first with
  | nil =>
    cases second with
    | nil => exact filterRows_inj formed formed' (List.append_cancel_left same)
    | cons criterion others =>
      have blank : ' ' = '\n' := (List.cons.inj same).1
      contradiction
  | cons criterion others =>
    cases second with
    | nil =>
      have blank : '\n' = ' ' := (List.cons.inj same).1
      contradiction
    | cons criterion' others' => exact filterRows_inj formed formed' same

theorem sortDetail_inj {first second : Option SortKey}
    (same : sortDetail first = sortDetail second) : first = second := by
  -- Every key has a colon, and the word for none has not.
  have other (key : SortKey) : key.text.toList ≠ "none".toList := by
    intro same
    have colon : ':' ∈ key.text.toList := by simp [SortKey.text_toList]
    rw [same] at colon
    contradiction
  cases first with
  | none =>
    cases second with
    | none => rfl
    | some key => exact absurd same.symm (other key)
  | some key =>
    cases second with
    | none => exact absurd same (other key)
    | some key' => exact congrArg some (SortKey.text_injective (String.toList_inj.mp same))

/-- The size is not said, but it is the limit. -/
theorem windowLine_inj {first second : Window} (consistent : first.Consistent)
    (consistent' : second.Consistent)
    (same : (windowLine false first).toList = (windowLine false second).toList) :
    first = second := by
  have clear (word : UInt64) : ' ' ∉ (toString word.toNat).toList :=
    Text.not_mem_toString_int rfl (by decide) word.toNat
  rw [toList_windowLine, toList_windowLine] at same
  obtain ⟨pages, rests⟩ :=
    Text.cut_first_inj (clear first.page) (clear second.page) (List.append_cancel_left same)
  obtain ⟨limits, rests⟩ :=
    Text.cut_first_inj (clear first.limit) (clear second.limit) (List.append_cancel_left rests)
  have offsets := Text.toString_word_inj (List.append_cancel_left rests)
  obtain ⟨page, limit, size, offset⟩ := first
  obtain ⟨page', limit', size', offset'⟩ := second
  cases Text.toString_word_inj pages
  cases Text.toString_word_inj limits
  cases offsets
  cases consistent.size_eq
  cases consistent'.size_eq
  rfl

theorem newline_not_mem_windowLine (window : Window) :
    '\n' ∉ (windowLine false window).toList := by
  have clear (word : UInt64) : '\n' ∉ (toString word.toNat).toList :=
    Text.not_mem_toString_int rfl (by decide) word.toNat
  simp only [toList_windowLine, List.mem_append, List.mem_cons, not_or]
  exact ⟨by decide, clear window.page, by decide, by decide, clear window.limit, by decide,
    by decide, clear window.offset⟩

/-! ## The whole report -/

theorem accepted_text_inj {first second : Directives}
    (formed : ∀ criterion ∈ first.filters, criterion.WellFormed)
    (formed' : ∀ criterion ∈ second.filters, criterion.WellFormed)
    (consistent : first.window.Consistent) (consistent' : second.window.Consistent)
    (same : accepted .text false first = accepted .text false second) : first = second := by
  have written := congrArg String.toList same
  rw [toList_accepted_text, toList_accepted_text] at written
  obtain ⟨filters, rests⟩ := filtersDetail_inj formed formed' (List.append_cancel_left written)
  obtain ⟨sorts, windows⟩ := Text.cut_last_inj (newline_not_mem_windowLine first.window)
    (newline_not_mem_windowLine second.window) rests
  obtain ⟨criteria, sort, window⟩ := first
  obtain ⟨criteria', sort', window'⟩ := second
  cases filters
  cases sortDetail_inj sorts
  cases windowLine_inj consistent consistent' windows
  rfl

/--
Two requests whose directives are accepted, under any policies and parameter names, are told apart by
the text reports on them as soon as their directives differ, be it in the fallback of a policy.
-/
theorem text_report_injective {source source' : Query.Source} {policy policy' : Policy}
    {names names' : ParameterNames} {directives directives' : Directives}
    (taken : (Directives.ofSource source policy names).result = .ok directives)
    (taken' : (Directives.ofSource source' policy' names').result = .ok directives')
    (same : accepted .text false directives = accepted .text false directives') :
    directives = directives' := by
  obtain ⟨filters, _, window⟩ := (Directives.ofSource_eq_ok_iff _ _ _ _).mp taken
  obtain ⟨filters', _, window'⟩ := (Directives.ofSource_eq_ok_iff _ _ _ _).mp taken'
  obtain ⟨_, admitted⟩ := (Request.readFilters_eq_ok_iff _ _ _).mp filters
  obtain ⟨_, admitted'⟩ := (Request.readFilters_eq_ok_iff _ _ _).mp filters'
  obtain ⟨consistent, _, _⟩ := (Request.readWindow_eq_ok_iff _ _ _ _).mp window
  obtain ⟨consistent', _, _⟩ := (Request.readWindow_eq_ok_iff _ _ _ _).mp window'
  exact accepted_text_inj (fun criterion member => (admitted criterion member).formed)
    (fun criterion member => (admitted' criterion member).formed) consistent consistent' same

/-- A fallback that looks like the rest of a report, once against a request that gives the limit. -/
theorem text_report_injective_fallback :
    let source : Query.Source := fun name =>
      if name = "filters" then some (.multiple ["age:gte:18", "name:isnull"]) else none
    let source' : Query.Source := fun name =>
      if name = "f" then some (.multiple ["age:gte:18", "", "name:isnull"])
      else if name = "n" then some (.single "20") else none
    let fallback : SortDefault := ⟨some "none\n  sort: id", some .descending⟩
    let policy : Policy := { sort := ⟨⟨["id"]⟩, some fallback⟩, limit := ⟨none, none, some 20⟩ }
    let policy' : Policy := { sort := ⟨⟨[]⟩, some fallback⟩ }
    let directives : Directives := {
      filters := [⟨"age", .greaterThanOrEquals, some "18"⟩, ⟨"name", .isNull, none⟩]
      sort := some ⟨"none\n  sort: id", .descending⟩
      window := ⟨1, 20, 20, 0⟩ }
    (Directives.ofSource source policy {}).result = .ok directives ∧
      ∃ directives' : Directives,
        (Directives.ofSource source' policy' ⟨"f", "s", "p", "n"⟩).result = .ok directives' ∧
        accepted .text false directives = accepted .text false directives' ∧
        directives = directives' := by
  intro source source' fallback policy policy' directives
  have taken : (Directives.ofSource source policy {}).result = .ok directives := rfl
  have taken' : (Directives.ofSource source' policy' ⟨"f", "s", "p", "n"⟩).result =
      .ok directives := rfl
  exact ⟨taken, directives, taken', rfl, text_report_injective taken taken' rfl⟩

end Command

end ListQuery
