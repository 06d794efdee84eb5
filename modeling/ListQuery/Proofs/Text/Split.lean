import ListQuery.Text.Split

/-!
# Separators: what they part

The first separator of a text and the last one each part it in one way (`cut_first_inj`,
`cut_last_inj`). Of many separators, each ends one piece and begins the next (`pieces_append_cons`).
With that, separators in a row add no piece, and a word without separators is the only piece of
itself. Nothing but separators is lost (`flatten_pieces`), so no piece holds any (`mem_pieces`).
-/
namespace ListQuery.Text

/-! ## One separator -/

theorem cut_first_inj {separator : Char} {head head' tail tail' : List Char}
    (clear : separator ∉ head) (clear' : separator ∉ head')
    (same : head ++ separator :: tail = head' ++ separator :: tail') :
    head = head' ∧ tail = tail' := by
  have cut := congrArg (splitFirst separator) same
  rw [splitFirst_append clear, splitFirst_append clear', Prod.mk.injEq, Option.some.injEq] at cut
  exact cut

theorem cut_last_inj {separator : Char} {head head' tail tail' : List Char}
    (clear : separator ∉ tail) (clear' : separator ∉ tail')
    (same : head ++ separator :: tail = head' ++ separator :: tail') :
    head = head' ∧ tail = tail' := by
  have backward := congrArg List.reverse same
  simp only [List.reverse_append, List.reverse_cons, List.append_assoc,
    List.singleton_append] at backward
  obtain ⟨tails, heads⟩ := cut_first_inj (by simpa using clear) (by simpa using clear') backward
  exact ⟨List.reverse_inj.mp heads, List.reverse_inj.mp tails⟩

/-- Each part but the first follows a separator. -/
theorem intercalate_cons (separator : Char) (first : List Char) (rest : List (List Char)) :
    [separator].intercalate (first :: rest) = first ++ rest.flatMap (separator :: ·) := by
  induction rest generalizing first with
  | nil => simp
  | cons next others ih => simp [List.intercalate_cons_cons, ih]

/-! ## Pieces -/

variable {isSeparator : Char → Bool}

theorem pieces_nil : pieces isSeparator [] = [] := by
  simp [pieces]

theorem pieces_append_cons {separator : Char} (isSep : isSeparator separator = true)
    (before after : List Char) :
    pieces isSeparator (before ++ separator :: after) =
      pieces isSeparator before ++ pieces isSeparator after := by
  rw [pieces, List.splitOnP_append_cons before after isSep, List.filter_append]
  rfl

theorem pieces_cons_separator {separator : Char} (isSep : isSeparator separator = true)
    (text : List Char) : pieces isSeparator (separator :: text) = pieces isSeparator text := by
  have cut := pieces_append_cons isSep [] text
  rwa [pieces_nil] at cut

theorem pieces_separators (separators text : List Char)
    (all : ∀ c ∈ separators, isSeparator c = true) :
    pieces isSeparator (separators ++ text) = pieces isSeparator text := by
  induction separators with
  | nil => rfl
  | cons c rest ih =>
    rw [List.cons_append, pieces_cons_separator (all c List.mem_cons_self)]
    exact ih fun d member => all d (List.mem_cons_of_mem _ member)

theorem pieces_eq_nil {separators : List Char} (all : ∀ c ∈ separators, isSeparator c = true) :
    pieces isSeparator separators = [] := by
  have none := pieces_separators separators [] all
  rwa [List.append_nil, pieces_nil] at none

/-- Separators in a row part what stands before them from what stands after them. -/
theorem pieces_append_gap {gap : List Char} (nonempty : gap ≠ [])
    (all : ∀ c ∈ gap, isSeparator c = true) (before after : List Char) :
    pieces isSeparator (before ++ (gap ++ after)) =
      pieces isSeparator before ++ pieces isSeparator after := by
  obtain ⟨separator, others, rfl⟩ := List.exists_cons_of_ne_nil nonempty
  rw [List.cons_append, pieces_append_cons (all separator List.mem_cons_self),
    pieces_separators others after fun c member => all c (List.mem_cons_of_mem _ member)]

theorem pieces_append_separators {separators : List Char}
    (all : ∀ c ∈ separators, isSeparator c = true) (text : List Char) :
    pieces isSeparator (text ++ separators) = pieces isSeparator text := by
  cases separators with
  | nil => rw [List.append_nil]
  | cons separator others =>
    have cut := pieces_append_gap (List.cons_ne_nil separator others) all text []
    rwa [List.append_nil, pieces_nil, List.append_nil] at cut

theorem pieces_word {word : List Char} (nonempty : word ≠ [])
    (clear : ∀ c ∈ word, isSeparator c = false) : pieces isSeparator word = [word] := by
  rw [pieces, List.splitOnP_eq_singleton clear, List.filter_cons_of_pos (by simpa using nonempty)]
  rfl

theorem flatten_splitOnP (text : List Char) :
    (text.splitOnP isSeparator).flatten = text.filter fun c => !isSeparator c := by
  induction text with
  | nil => rfl
  | cons c rest ih =>
    rw [List.splitOnP_cons_eq_if_modifyHead]
    cases separates : isSeparator c with
    | true => simpa [separates] using ih
    | false =>
      -- The character goes to the first part of what follows.
      obtain ⟨first, others, cut⟩ :=
        List.exists_cons_of_ne_nil (List.splitOnP_ne_nil isSeparator rest)
      rw [cut, List.flatten_cons] at ih
      simp [cut, separates, ih]

theorem flatten_pieces (isSeparator : Char → Bool) (text : List Char) :
    (pieces isSeparator text).flatten = text.filter fun c => !isSeparator c := by
  rw [pieces, List.flatten_filter_not_isEmpty, flatten_splitOnP]

theorem mem_pieces {text piece : List Char} (member : piece ∈ pieces isSeparator text) :
    piece ≠ [] ∧ ∀ c ∈ piece, c ∈ text ∧ isSeparator c = false := by
  constructor
  · obtain ⟨_, nonempty⟩ := List.mem_filter.mp member
    simpa using nonempty
  · intro c inside
    have kept : c ∈ (pieces isSeparator text).flatten := List.mem_flatten_of_mem member inside
    rw [flatten_pieces] at kept
    simpa using List.mem_filter.mp kept

end ListQuery.Text
