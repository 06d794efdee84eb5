import ListQuery.Proofs.Text.Split
import ListQuery.Text.Regex

/-!
# Regular expressions: the texts an expression spells

`Spells` says which texts an expression stands for, constructor by constructor. Reading a text one
character at a time accepts exactly these (`accepts_iff`), and a capture cuts a text into two parts
that spell the expressions around its separator (`capture_iff`).
-/
namespace ListQuery.Text.Regex

inductive Spells : Regex → List Char → Prop where
  | empty : Spells .empty []
  | oneOf {accepts : Char → Bool} {c : Char} (accepted : accepts c = true) :
      Spells (.oneOf accepts) [c]
  | sequence {first second : Regex} {head tail : List Char} (before : Spells first head)
      (behind : Spells second tail) : Spells (.sequence first second) (head ++ tail)
  | left {left right : Regex} {text : List Char} (spelled : Spells left text) :
      Spells (.choice left right) text
  | right {left right : Regex} {text : List Char} (spelled : Spells right text) :
      Spells (.choice left right) text
  | done {inner : Regex} : Spells (.many inner) []
  | again {inner : Regex} {head tail : List Char} (once : Spells inner head)
      (rest : Spells (.many inner) tail) : Spells (.many inner) (head ++ tail)

/-! ## One inversion for each constructor -/

@[simp] theorem spells_nothing (text : List Char) : ¬ Spells .nothing text := by
  intro spelled
  cases spelled

@[simp] theorem spells_empty (text : List Char) : Spells .empty text ↔ text = [] := by
  constructor
  · intro spelled
    cases spelled
    rfl
  · intro ended
    subst ended
    exact .empty

theorem spells_oneOf (accepts : Char → Bool) (text : List Char) :
    Spells (.oneOf accepts) text ↔ ∃ c, text = [c] ∧ accepts c = true := by
  constructor
  · intro spelled
    cases spelled with
    | oneOf accepted => exact ⟨_, rfl, accepted⟩
  · intro single
    obtain ⟨c, rfl, accepted⟩ := single
    exact .oneOf accepted

theorem spells_sequence (first second : Regex) (text : List Char) :
    Spells (.sequence first second) text ↔
      ∃ head tail, text = head ++ tail ∧ Spells first head ∧ Spells second tail := by
  constructor
  · intro spelled
    cases spelled with
    | sequence before behind => exact ⟨_, _, rfl, before, behind⟩
  · intro cut
    obtain ⟨head, tail, rfl, before, behind⟩ := cut
    exact .sequence before behind

@[simp] theorem spells_choice (left right : Regex) (text : List Char) :
    Spells (.choice left right) text ↔ Spells left text ∨ Spells right text := by
  constructor
  · intro spelled
    cases spelled with
    | left spelled => exact .inl spelled
    | right spelled => exact .inr spelled
  · intro spelled
    rcases spelled with spelled | spelled
    · exact .left spelled
    · exact .right spelled

/-- A repetition that spells something spends its first character in a round that is not empty. -/
theorem spells_many_cons (inner : Regex) (c : Char) (text : List Char) :
    Spells (.many inner) (c :: text) ↔
      ∃ head tail, text = head ++ tail ∧ Spells inner (c :: head) ∧ Spells (.many inner) tail := by
  constructor
  · intro spelled
    generalize regexEq : Regex.many inner = regex at spelled
    generalize textEq : c :: text = whole at spelled
    induction spelled with
    | empty | oneOf | sequence | left | right => cases regexEq
    | done => cases textEq
    | @again inner' head tail once rest _ ih =>
      cases regexEq
      cases head with
      | nil => exact ih rfl textEq
      | cons d head =>
        simp only [List.cons_append, List.cons.injEq] at textEq
        obtain ⟨rfl, rfl⟩ := textEq
        exact ⟨head, tail, rfl, once, rest⟩
  · intro cut
    obtain ⟨head, tail, rfl, once, rest⟩ := cut
    exact .again once rest

/-! ## Reading character by character -/

theorem acceptsEmpty_iff (regex : Regex) : regex.acceptsEmpty = true ↔ Spells regex [] := by
  induction regex with
  | nothing => simp [acceptsEmpty]
  | empty => simp [acceptsEmpty]
  | oneOf accepts => simp [acceptsEmpty, spells_oneOf]
  | sequence first second firstIh secondIh =>
    simp [acceptsEmpty, spells_sequence, firstIh, secondIh, and_assoc]
  | choice left right leftIh rightIh => simp [acceptsEmpty, leftIh, rightIh]
  | many inner _ => simp [acceptsEmpty, Spells.done]

theorem spells_followedBy (first second : Regex) (text : List Char) :
    Spells (first.followedBy second) text ↔ Spells (.sequence first second) text := by
  unfold followedBy
  split
  · simp [spells_sequence]
  · simp only [spells_sequence, spells_empty]
    constructor
    · intro spelled
      exact ⟨[], text, rfl, rfl, spelled⟩
    · intro cut
      obtain ⟨_, tail, rfl, rfl, behind⟩ := cut
      exact behind
  · rfl

theorem spells_orElse (left right : Regex) (text : List Char) :
    Spells (left.orElse right) text ↔ Spells left text ∨ Spells right text := by
  unfold orElse
  split
  · simp
  · simp
  · exact spells_choice _ _ _

/-- What is left after a character spells exactly what the expression spells behind it. -/
theorem spells_after (regex : Regex) (c : Char) (text : List Char) :
    Spells (regex.after c) text ↔ Spells regex (c :: text) := by
  induction regex generalizing text with
  | nothing => simp [after]
  | empty => simp [after]
  | oneOf accepts =>
    simp only [after, spells_oneOf, List.cons.injEq]
    split
    next accepted =>
      rw [spells_empty]
      exact ⟨fun done => ⟨c, ⟨rfl, done⟩, accepted⟩, fun ⟨_, same, _⟩ => same.2⟩
    next refused =>
      simp only [spells_nothing, false_iff]
      intro spelled
      obtain ⟨d, ⟨rfl, _⟩, accepted⟩ := spelled
      exact refused accepted
  | sequence first second firstIh secondIh =>
    -- The character belongs to the first part, unless that part is left empty.
    have split_cons : Spells (.sequence first second) (c :: text) ↔
        (Spells first [] ∧ Spells second (c :: text)) ∨
          ∃ head tail, text = head ++ tail ∧ Spells first (c :: head) ∧ Spells second tail := by
      simp only [spells_sequence, List.cons_eq_append_iff]
      constructor
      · intro cut
        obtain ⟨head, tail, (⟨rfl, rfl⟩ | ⟨rest, rfl, rfl⟩), before, behind⟩ := cut
        · exact .inl ⟨before, behind⟩
        · exact .inr ⟨rest, tail, rfl, before, behind⟩
      · intro cut
        rcases cut with ⟨before, behind⟩ | ⟨rest, tail, rfl, before, behind⟩
        · exact ⟨[], c :: text, .inl ⟨rfl, rfl⟩, before, behind⟩
        · exact ⟨c :: rest, tail, .inr ⟨rest, rfl, rfl⟩, before, behind⟩
    rw [split_cons, ← acceptsEmpty_iff]
    simp only [after]
    split
    next skips =>
      simp [spells_orElse, spells_followedBy, spells_sequence, firstIh, secondIh, skips, or_comm]
    next needed => simp [spells_followedBy, spells_sequence, firstIh, needed]
  | choice left right leftIh rightIh => simp [after, spells_orElse, leftIh, rightIh]
  | many inner ih =>
    simp only [after, spells_followedBy, spells_sequence, spells_many_cons, ih]

/-- Reading a text to its end accepts exactly the texts that the expression spells. -/
theorem accepts_iff (regex : Regex) (text : List Char) :
    regex.accepts text = true ↔ Spells regex text := by
  induction text generalizing regex with
  | nil => exact acceptsEmpty_iff regex
  | cons c rest ih => rw [accepts, ih, spells_after]

/-! ## The expressions that spellings of directives are made of -/

theorem spells_many_oneOf (accepts : Char → Bool) (text : List Char) :
    Spells (.many (.oneOf accepts)) text ↔ ∀ c ∈ text, accepts c = true := by
  induction text with
  | nil => simp [Spells.done]
  | cons c rest ih =>
    rw [spells_many_cons]
    constructor
    · intro cut
      obtain ⟨head, tail, rfl, once, others⟩ := cut
      obtain ⟨d, same, accepted⟩ := (spells_oneOf _ _).mp once
      obtain ⟨rfl, rfl⟩ := List.cons.inj same
      exact List.forall_mem_cons.mpr ⟨accepted, ih.mp others⟩
    · intro all
      have accepted := all c List.mem_cons_self
      have others := ih.mpr fun d member => all d (List.mem_cons_of_mem c member)
      exact ⟨[], rest, rfl, .oneOf accepted, others⟩

theorem spells_oneOrMore (accepts : Char → Bool) (text : List Char) :
    Spells (oneOrMore accepts) text ↔ text ≠ [] ∧ ∀ c ∈ text, accepts c = true := by
  rw [oneOrMore, spells_sequence]
  constructor
  · intro cut
    obtain ⟨head, tail, rfl, once, others⟩ := cut
    obtain ⟨c, rfl, accepted⟩ := (spells_oneOf _ _).mp once
    refine ⟨List.cons_ne_nil _ _, List.forall_mem_cons.mpr ⟨accepted, ?_⟩⟩
    exact (spells_many_oneOf _ _).mp others
  · intro letters
    obtain ⟨nonempty, all⟩ := letters
    cases text with
    | nil => exact absurd rfl nonempty
    | cons c rest =>
      obtain ⟨accepted, others⟩ := List.forall_mem_cons.mp all
      exact ⟨[c], rest, rfl, .oneOf accepted, (spells_many_oneOf _ _).mpr others⟩

theorem spells_word (target : String) (text : List Char) :
    Spells (word target) text ↔ text = target.toList := by
  unfold word
  generalize target.toList = letters
  induction letters generalizing text with
  | nil => exact spells_empty text
  | cons c rest ih =>
    simp only [List.foldr_cons, spells_sequence, spells_oneOf, ih, beq_iff_eq]
    constructor
    · intro cut
      obtain ⟨_, _, rfl, ⟨d, rfl, rfl⟩, rfl⟩ := cut
      rfl
    · intro same
      subst same
      exact ⟨[c], rest, rfl, ⟨c, rfl, rfl⟩, rfl⟩

theorem spells_anyOf (words : List String) (text : List Char) :
    Spells (anyOf words) text ↔ String.ofList text ∈ words := by
  induction words with
  | nil => simp [anyOf]
  | cons target rest ih =>
    rw [anyOf, List.foldr_cons, spells_choice, spells_word, List.mem_cons, ← anyOf, ih]
    rw [← String.toList_inj, String.toList_ofList]

theorem spells_inOrder_cons (part : Regex) (parts : List Regex) (text : List Char) :
    Spells (inOrder (part :: parts)) text ↔
      ∃ head tail, text = head ++ tail ∧ Spells part head ∧ Spells (inOrder parts) tail :=
  spells_sequence part (inOrder parts) text

/-- The last part takes the rest of a text. -/
theorem spells_inOrder_singleton (part : Regex) (text : List Char) :
    Spells (inOrder [part]) text ↔ ∃ segment : String, text = segment.toList ∧
      Spells part segment.toList := by
  rw [spells_inOrder_cons]
  constructor
  · intro cut
    obtain ⟨head, tail, rfl, spelled, rest⟩ := cut
    cases (spells_empty tail).mp rest
    exact ⟨String.ofList head, by simp, by simpa using spelled⟩
  · intro whole
    obtain ⟨segment, rfl, spelled⟩ := whole
    exact ⟨segment.toList, [], (List.append_nil _).symm, spelled, .empty⟩

/-- A part before a colon takes one segment of a text. -/
theorem spells_inOrder_colon (part : Regex) (parts : List Regex) (text : List Char) :
    Spells (inOrder (part :: word ":" :: parts)) text ↔
      ∃ (segment : String) (tail : List Char), text = segment.toList ++ ':' :: tail ∧
        Spells part segment.toList ∧ Spells (inOrder parts) tail := by
  rw [spells_inOrder_cons]
  constructor
  · intro cut
    obtain ⟨head, _, rfl, spelled, rest⟩ := cut
    obtain ⟨colon, tail, rfl, isColon, behind⟩ := (spells_inOrder_cons _ _ _).mp rest
    cases (spells_word _ _).mp isColon
    exact ⟨String.ofList head, tail, by simp, by simpa using spelled, behind⟩
  · intro cut
    obtain ⟨segment, tail, rfl, spelled, behind⟩ := cut
    have rest : Spells (inOrder (word ":" :: parts)) (':' :: tail) :=
      .sequence ((spells_word ":" _).mpr rfl) behind
    exact ⟨segment.toList, ':' :: tail, rfl, spelled, rest⟩

/-! ## Captures -/

theorem capture_sound (separator : Char) (second first : Regex) (text head tail : List Char)
    (captured : capture separator second first text = some (head, tail)) :
    text = head ++ separator :: tail ∧ Spells first head ∧ Spells second tail := by
  induction text generalizing first head tail with
  | nil => cases captured
  | cons c rest ih =>
    rw [capture] at captured
    split at captured
    next inner _ later =>
      simp only [Option.some.injEq, Prod.mk.injEq] at captured
      obtain ⟨rfl, rfl⟩ := captured
      obtain ⟨rfl, before, behind⟩ := ih _ _ _ later
      exact ⟨rfl, (spells_after _ _ _).mp before, behind⟩
    next =>
      split at captured
      next here =>
        simp only [Option.some.injEq, Prod.mk.injEq] at captured
        obtain ⟨rfl, rfl⟩ := captured
        obtain ⟨rfl, before, behind⟩ := here
        exact ⟨rfl, (acceptsEmpty_iff _).mp before, (accepts_iff _ _).mp behind⟩
      next => cases captured

theorem capture_complete (separator : Char) (second first : Regex) (head tail : List Char)
    (before : Spells first head) (behind : Spells second tail) :
    ∃ parts, capture separator second first (head ++ separator :: tail) = some parts := by
  induction head generalizing first with
  | nil =>
    have here : separator = separator ∧ first.acceptsEmpty ∧ second.accepts tail :=
      ⟨rfl, (acceptsEmpty_iff _).mpr before, (accepts_iff _ _).mpr behind⟩
    rw [List.nil_append, capture]
    split
    · exact ⟨_, rfl⟩
    · exact ⟨_, if_pos here⟩
  | cons c rest ih =>
    obtain ⟨⟨inner, outer⟩, later⟩ := ih (first.after c) ((spells_after _ _ _).mpr before)
    rw [List.cons_append, capture, later]
    exact ⟨_, rfl⟩

/-- Where the first part cannot contain the separator, there is only one way to cut. -/
theorem capture_iff (separator : Char) (second first : Regex) (text head tail : List Char)
    (clear : ∀ part, Spells first part → separator ∉ part) :
    capture separator second first text = some (head, tail) ↔
      text = head ++ separator :: tail ∧ Spells first head ∧ Spells second tail := by
  constructor
  · exact capture_sound separator second first text head tail
  · intro cut
    obtain ⟨rfl, before, behind⟩ := cut
    obtain ⟨⟨head', tail'⟩, captured⟩ :=
      capture_complete separator second first head tail before behind
    obtain ⟨same, before', _⟩ := capture_sound _ _ _ _ _ _ captured
    obtain ⟨rfl, rfl⟩ := cut_first_inj (clear head before) (clear head' before') same
    exact captured

end ListQuery.Text.Regex
