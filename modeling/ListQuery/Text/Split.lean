/-! Cutting a text at a separator. -/
namespace ListQuery.Text

/-- The text before the first separator and, if there is one, the text after it. -/
def splitFirst (separator : Char) : List Char → List Char × Option (List Char)
  | [] => ([], none)
  | c :: rest =>
    if c = separator then ([], some rest)
    else
      let (head, tail) := splitFirst separator rest
      (c :: head, tail)

/-- The text after a word, if the text starts with that word. -/
def dropWord (word text : List Char) : Option (List Char) :=
  if word.isPrefixOf text then some (text.drop word.length) else none

/-- The non-empty pieces between separators. -/
def pieces (isSeparator : Char → Bool) (text : List Char) : List (List Char) :=
  (text.splitOnP isSeparator).filter fun piece => !piece.isEmpty

/-- A text without the separator stays whole. -/
theorem splitFirst_eq_self {separator : Char} {text : List Char} (h : separator ∉ text) :
    splitFirst separator text = (text, none) := by
  induction text with
  | nil => rfl
  | cons c rest ih =>
    simp only [List.mem_cons, not_or] at h
    simp [splitFirst, Ne.symm h.1, ih h.2]

/-- A head without the separator is found again in front of it. -/
theorem splitFirst_append {separator : Char} {head tail : List Char} (h : separator ∉ head) :
    splitFirst separator (head ++ separator :: tail) = (head, some tail) := by
  induction head with
  | nil => simp [splitFirst]
  | cons c rest ih =>
    simp only [List.mem_cons, not_or] at h
    simp [splitFirst, Ne.symm h.1, ih h.2]

@[simp] theorem dropWord_append (word rest : List Char) :
    dropWord word (word ++ rest) = some rest := by
  simp [dropWord, List.isPrefixOf_iff_prefix]

end ListQuery.Text
