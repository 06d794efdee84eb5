import ListQuery.Document.Basic

/-! Tables listed in the order of their keys, and the laying of one tree over another. -/
namespace ListQuery

/-- The keys increase, so each occurs once. -/
def Ordered {α : Type} (entries : List (String × α)) : Prop :=
  entries.Pairwise fun a b => a.1 < b.1

/-- The entries with one key set, keeping the order of keys. -/
def setEntry {α : Type} (key : String) (value : α) : List (String × α) → List (String × α)
  | [] => [(key, value)]
  | (k, v) :: rest =>
    if key < k then (key, value) :: (k, v) :: rest
    else if key = k then (key, value) :: rest
    else (k, v) :: setEntry key value rest

theorem mem_setEntry {α : Type} {key : String} {value : α} {entries : List (String × α)}
    {entry : String × α} (h : entry ∈ setEntry key value entries) :
    entry = (key, value) ∨ entry ∈ entries := by
  induction entries with
  | nil => simpa [setEntry] using h
  | cons head rest ih =>
    obtain ⟨k, v⟩ := head
    simp only [setEntry] at h
    split at h
    · simpa using h
    · split at h
      · exact (List.mem_cons.1 h).imp id (List.mem_cons_of_mem _)
      · rcases List.mem_cons.1 h with h | h
        · simp [h]
        · exact (ih h).imp id (List.mem_cons_of_mem _)

theorem lt_of_not_lt_of_ne {a b : String} (h : ¬ a < b) (hne : a ≠ b) : b < a :=
  Decidable.not_not.1 fun h' => hne (String.le_antisymm (String.not_lt.1 h') (String.not_lt.1 h))

theorem Ordered.setEntry {α : Type} {key : String} {value : α} {entries : List (String × α)}
    (h : Ordered entries) : Ordered (setEntry key value entries) := by
  induction entries with
  | nil => exact List.pairwise_singleton _ _
  | cons head rest ih =>
    obtain ⟨k, v⟩ := head
    obtain ⟨hhead, hrest⟩ := List.pairwise_cons.1 h
    simp only [ListQuery.setEntry]
    split
    · next hlt =>
      refine List.pairwise_cons.2 ⟨fun entry hmem => ?_, h⟩
      rcases List.mem_cons.1 hmem with rfl | hmem
      · exact hlt
      · exact String.lt_trans hlt (hhead entry hmem)
    · split
      · next heq => exact List.pairwise_cons.2 ⟨by simpa [heq] using hhead, hrest⟩
      · next hlt hne =>
        refine List.pairwise_cons.2 ⟨fun entry hmem => ?_, ih hrest⟩
        rcases mem_setEntry hmem with rfl | hmem
        · exact lt_of_not_lt_of_ne hlt hne
        · exact hhead entry hmem

namespace Document

mutual

/-- The upper tree wins, except that two tables are laid over each other key by key. -/
def overlay (lower : Document) : Document → Document
  | table upper =>
    match lower with
    | table entries => table (overlayEntries entries upper)
    | _ => table upper
  | upper => upper

def overlayEntries (lower : List (String × Document)) :
    List (String × Document) → List (String × Document)
  | [] => lower
  | (key, value) :: rest =>
    let merged :=
      match lower.lookup key with
      | some old => overlay old value
      | none => value
    overlayEntries (setEntry key merged lower) rest

end

/-- A value alone at the end of a path of keys. -/
def nest : List String → Document → Document
  | [], value => value
  | key :: keys, value => table [(key, nest keys value)]

end Document

end ListQuery
