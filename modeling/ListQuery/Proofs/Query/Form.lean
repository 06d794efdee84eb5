import ListQuery.Proofs.Text.Utf8
import ListQuery.Query.Form

/-!
# Form encoding: texts that stand for themselves

A text without percent and plus signs decodes to itself, whatever other characters it holds
(`decodeComponent_plain`). Pairs of such texts, joined by equals signs and ampersands, are read back
in order (`Pairs.parse_plain`).
-/
namespace ListQuery.Query

open Text

theorem unescape_of_no_percent (octets : List UInt8) (clear : 37 ∉ octets) :
    unescape octets = octets.map unplus := by
  fun_induction unescape octets with
  | case1 | case2 => exact absurd List.mem_cons_self clear
  | case3 first high low rest _ ih =>
    rw [ih (List.not_mem_of_not_mem_cons clear)]
    rfl
  | case4 short => rfl

theorem map_unplus_of_no_plus (octets : List UInt8) (clear : 43 ∉ octets) :
    octets.map unplus = octets := by
  have each : ∀ octet ∈ octets, unplus octet = octet := by
    intro octet member
    have other : octet ≠ 43 := fun same => clear (same ▸ member)
    rw [unplus, if_neg other]
  exact (List.map_congr_left each).trans (List.map_id' octets)

/-- A character that a value holds as itself. -/
def IsPlain (c : Char) : Prop := c ≠ '&' ∧ c ≠ '%' ∧ c ≠ '+'

theorem decodeComponent_plain (text : String) (plain : ∀ c ∈ text.toList, IsPlain c) :
    decodeComponent text.toList = text := by
  have percent : '%' ∉ text.toList := fun member => (plain _ member).2.1 rfl
  have plus : '+' ∉ text.toList := fun member => (plain _ member).2.2 rfl
  rw [decodeComponent,
    unescape_of_no_percent _ (Utf8.not_mem_encode (by decide) (by decide) percent),
    map_unplus_of_no_plus _ (Utf8.not_mem_encode (by decide) (by decide) plus), Utf8.decode_encode,
    String.ofList_toList]

/-! ## Pairs -/

/-- Pairs joined by the signs that separate them, without escapes. -/
def Pairs.plainText (pairs : Pairs) : String :=
  "&".intercalate (pairs.map fun pair => pair.1 ++ "=" ++ pair.2)

theorem pieces_intercalate (separator : Char) (words : List (List Char))
    (clear : ∀ word ∈ words, separator ∉ word) (nonempty : ∀ word ∈ words, word ≠ []) :
    pieces (· == separator) ([separator].intercalate words) = words := by
  cases words with
  | nil => simp [pieces]
  | cons first rest =>
    have cut := List.splitOn_intercalate separator clear (List.cons_ne_nil first rest)
    rw [List.splitOn_eq_splitOnP] at cut
    rw [pieces, cut, List.filter_eq_self]
    intro word member
    simpa using nonempty word member

theorem decodePair_plain (name value : String)
    (namePlain : ∀ c ∈ name.toList, IsPlain c ∧ c ≠ '=')
    (valuePlain : ∀ c ∈ value.toList, IsPlain c) :
    decodePair (name ++ "=" ++ value).toList = (name, value) := by
  have clear : '=' ∉ name.toList := fun member => (namePlain _ member).2 rfl
  have whole : (name ++ "=" ++ value).toList = name.toList ++ '=' :: value.toList := by simp
  rw [decodePair, whole, splitFirst_append clear]
  simp only [Option.getD_some]
  rw [decodeComponent_plain name fun c member => (namePlain c member).1,
    decodeComponent_plain value valuePlain]

theorem Pairs.toList_plainText (pairs : Pairs) :
    pairs.plainText.toList =
      ['&'].intercalate (pairs.map fun pair => (pair.1 ++ "=" ++ pair.2).toList) := by
  rw [plainText, String.toList_intercalate, List.map_map]
  rfl

theorem dropQuestionMark_plain (name value : String) (rest : List Char)
    (clear : '?' ∉ name.toList) :
    dropQuestionMark ((name ++ "=" ++ value).toList ++ rest) =
      (name ++ "=" ++ value).toList ++ rest := by
  have whole : (name ++ "=" ++ value).toList = name.toList ++ '=' :: value.toList := by simp
  rw [whole]
  cases letters : name.toList with
  | nil => rfl
  | cons c others =>
    have other : c ≠ '?' := by
      intro same
      exact clear (by simp [letters, same])
    unfold dropQuestionMark
    split
    next found =>
      simp only [List.cons_append, List.cons.injEq] at found
      exact absurd found.1 other
    next => rfl

/-- Plain pairs are read back as they are, in order and with repetitions. -/
theorem Pairs.parse_plain (pairs : Pairs)
    (names : ∀ pair ∈ pairs, ∀ c ∈ pair.1.toList, IsPlain c ∧ c ≠ '=' ∧ c ≠ '?')
    (values : ∀ pair ∈ pairs, ∀ c ∈ pair.2.toList, IsPlain c) :
    parse pairs.plainText = pairs := by
  have kept : dropQuestionMark pairs.plainText.toList = pairs.plainText.toList := by
    rw [toList_plainText]
    cases pairs with
    | nil => rfl
    | cons pair rest =>
      have clear : '?' ∉ pair.1.toList :=
        fun member => (names pair List.mem_cons_self _ member).2.2 rfl
      cases rest with
      | nil => simpa using dropQuestionMark_plain pair.1 pair.2 [] clear
      | cons next others =>
        rw [List.map_cons, List.map_cons, List.intercalate_cons_cons, List.append_assoc]
        exact dropQuestionMark_plain pair.1 pair.2 _ clear
  have ampersands : ∀ word ∈ pairs.map fun pair => (pair.1 ++ "=" ++ pair.2).toList,
      '&' ∉ word := by
    intro word member inside
    obtain ⟨pair, listed, rfl⟩ := List.mem_map.mp member
    simp only [String.toList_append, List.mem_append] at inside
    rcases inside with (inName | sign) | inValue
    · exact (names pair listed _ inName).1.1 rfl
    · simp at sign
    · exact (values pair listed _ inValue).1 rfl
  have nonempty : ∀ word ∈ pairs.map fun pair => (pair.1 ++ "=" ++ pair.2).toList, word ≠ [] := by
    intro word member
    obtain ⟨pair, _, rfl⟩ := List.mem_map.mp member
    simp
  rw [parse, kept, toList_plainText, pieces_intercalate '&' _ ampersands nonempty, List.map_map]
  have each : ∀ pair ∈ pairs, decodePair (pair.1 ++ "=" ++ pair.2).toList = pair := by
    intro pair listed
    refine decodePair_plain pair.1 pair.2 ?_ (values pair listed)
    intro c member
    obtain ⟨plain, unequal, _⟩ := names pair listed c member
    exact ⟨plain, unequal⟩
  exact (List.map_congr_left each).trans (List.map_id' pairs)

end ListQuery.Query
