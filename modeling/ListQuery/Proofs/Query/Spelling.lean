import ListQuery.Proofs.Query.Form
import ListQuery.Proofs.Text.Split

/-!
# Form encoding: every spelling is read as what it spells

A list of pairs has many spellings: each character may stand for itself unless it is a sign, or be
escaped octet by octet, and ampersands may be repeated (`Pairs.Spelled`). Unescaping a spelled
character gives its octets, whatever follows (`CharSpelled.unescape`), and no spelling of a part
holds a sign that separates parts (`Spelled.clear`). So each piece is read as its pair, and the
pieces are the pairs in order (`Pairs.parse_spelled`).
-/
namespace ListQuery.Query

open Text

/-! ## Escaped octets -/

/-- A hexadecimal digit and its value; letters are of either case. -/
inductive HexDigit : Nat → Char → Prop where
  | lower (value : Nat) (small : value < 16) : HexDigit value (Nat.digitChar value)
  | upper (value : Nat) (small : value < 16) : HexDigit value (Nat.digitChar value).toUpper

/-- A percent sign and two digits for each octet. -/
inductive Escaped : List UInt8 → List Char → Prop where
  | nil : Escaped [] []
  | cons (octet : UInt8) (high low : Char) (octets : List UInt8) (text : List Char)
      (first : HexDigit (octet.toNat / 16) high) (second : HexDigit (octet.toNat % 16) low)
      (rest : Escaped octets text) :
      Escaped (octet :: octets) ('%' :: high :: low :: text)

theorem HexDigit.exists_octet {value : Nat} {digit : Char} (hex : HexDigit value digit) :
    ∃ octet : UInt8, String.utf8EncodeChar digit = [octet] ∧
      hexValue? (Char.ofUInt8 octet) = some value := by
  have small_letter : ∀ small : Fin 16,
      String.utf8EncodeChar (Nat.digitChar small) = [UInt8.ofNat (Nat.digitChar small).toNat] ∧
        hexValue? (Char.ofUInt8 (UInt8.ofNat (Nat.digitChar small).toNat)) = some small.val := by
    decide
  have capital : ∀ small : Fin 16,
      String.utf8EncodeChar (Nat.digitChar small).toUpper =
          [UInt8.ofNat (Nat.digitChar small).toUpper.toNat] ∧
        hexValue? (Char.ofUInt8 (UInt8.ofNat (Nat.digitChar small).toUpper.toNat)) =
          some small.val := by
    decide
  cases hex with
  | lower small => exact ⟨_, small_letter ⟨value, small⟩⟩
  | upper small => exact ⟨_, capital ⟨value, small⟩⟩

theorem HexDigit.isAlphanum {value : Nat} {digit : Char} (hex : HexDigit value digit) :
    digit.isAlphanum = true := by
  have each : ∀ small : Fin 16, (Nat.digitChar small).isAlphanum = true ∧
      (Nat.digitChar small).toUpper.isAlphanum = true := by decide
  cases hex with
  | lower small => exact (each ⟨value, small⟩).1
  | upper small => exact (each ⟨value, small⟩).2

theorem unescape_cons_of_ne {octet : UInt8} (plain : octet ≠ 37) (rest : List UInt8) :
    unescape (octet :: rest) = unplus octet :: unescape rest := by
  match rest with
  | [] => rfl
  | [_] => rfl
  | _ :: _ :: _ => rw [unescape, if_neg plain]

theorem unescape_escape {high low octet : UInt8} (hex : hexOctet? high low = some octet)
    (rest : List UInt8) : unescape (37 :: high :: low :: rest) = octet :: unescape rest := by
  rw [unescape, if_pos rfl, hex]

theorem unescape_append_plain (octets rest : List UInt8) (noPercent : 37 ∉ octets)
    (noPlus : 43 ∉ octets) : unescape (octets ++ rest) = octets ++ unescape rest := by
  induction octets with
  | nil => rfl
  | cons octet octets ih =>
    simp only [List.mem_cons, not_or] at noPercent noPlus
    rw [List.cons_append, unescape_cons_of_ne (Ne.symm noPercent.1), unplus,
      if_neg (Ne.symm noPlus.1), ih noPercent.2 noPlus.2]
    rfl

theorem Escaped.unescape {octets : List UInt8} {text : List Char} (escaped : Escaped octets text)
    (rest : List UInt8) :
    unescape (Utf8.encode text ++ rest) = octets ++ unescape rest := by
  induction escaped with
  | nil => rfl
  | cons octet high low octets text first second _ ih =>
    obtain ⟨highOctet, highEncoded, highValue⟩ := first.exists_octet
    obtain ⟨lowOctet, lowEncoded, lowValue⟩ := second.exists_octet
    have whole : Utf8.encode ('%' :: high :: low :: text) =
        37 :: highOctet :: lowOctet :: Utf8.encode text := by
      simp only [Utf8.encode, List.flatMap_cons, highEncoded, lowEncoded]
      rfl
    have hex : hexOctet? highOctet lowOctet = some octet := by
      have split : octet.toNat / 16 * 16 + octet.toNat % 16 = octet.toNat := by omega
      simp only [hexOctet?, highValue, lowValue, split, UInt8.ofNat_toNat]
    rw [whole, List.cons_append, List.cons_append, List.cons_append, unescape_escape hex, ih]
    rfl

theorem Escaped.clear {octets : List UInt8} {text : List Char} (escaped : Escaped octets text)
    {sign : Char} (notPercent : sign ≠ '%') (notDigit : sign.isAlphanum = false) : sign ∉ text := by
  have notHex {value : Nat} {digit : Char} (hex : HexDigit value digit) : sign ≠ digit := by
    intro same
    have accepted := hex.isAlphanum
    rw [← same, notDigit] at accepted
    cases accepted
  induction escaped with
  | nil => exact List.not_mem_nil
  | cons octet high low octets text first second _ ih =>
    simp only [List.mem_cons, not_or]
    exact ⟨notPercent, notHex first, notHex second, ih⟩

theorem Escaped.exists_text (octets : List UInt8) : ∃ text, Escaped octets text := by
  induction octets with
  | nil => exact ⟨[], .nil⟩
  | cons octet octets ih =>
    obtain ⟨text, escaped⟩ := ih
    have bound : octet.toNat < 256 := octet.toNat_lt_size
    exact ⟨_, .cons octet _ _ octets text (.lower _ (by omega)) (.lower _ (by omega)) escaped⟩

/-! ## Characters and components -/

/-- A character that stands for itself, is escaped, or is a space written as a plus sign. -/
inductive CharSpelled (plain : Char → Prop) : Char → List Char → Prop where
  | raw (c : Char) (isPlain : plain c) : CharSpelled plain c [c]
  | escaped (c : Char) (text : List Char) (escaped : Escaped (String.utf8EncodeChar c) text) :
      CharSpelled plain c text
  | plus : CharSpelled plain ' ' ['+']

/-- The characters of a name or value, one after the other. -/
inductive Spelled (plain : Char → Prop) : List Char → List Char → Prop where
  | nil : Spelled plain [] []
  | cons (c : Char) (spelling rest text : List Char) (first : CharSpelled plain c spelling)
      (onward : Spelled plain rest text) : Spelled plain (c :: rest) (spelling ++ text)

variable {plain : Char → Prop}

theorem CharSpelled.unescape {c : Char} {spelling : List Char}
    (spelled : CharSpelled plain c spelling) (isPlain : ∀ c, plain c → IsPlain c)
    (rest : List UInt8) :
    unescape (Utf8.encode spelling ++ rest) = String.utf8EncodeChar c ++ unescape rest := by
  cases spelled with
  | raw _ accepted =>
    obtain ⟨_, notPercent, notPlus⟩ := isPlain c accepted
    have alone : Utf8.encode [c] = String.utf8EncodeChar c := List.append_nil _
    have percent : '%' ∉ [c] := by simpa using Ne.symm notPercent
    have plus : '+' ∉ [c] := by simpa using Ne.symm notPlus
    rw [unescape_append_plain _ _ (Utf8.not_mem_encode (by decide) (by decide) percent)
      (Utf8.not_mem_encode (by decide) (by decide) plus), alone]
  | escaped _ _ escaped => exact escaped.unescape rest
  | plus => exact unescape_cons_of_ne (by decide) rest

theorem Spelled.unescape {text spelling : List Char} (spelled : Spelled plain text spelling)
    (isPlain : ∀ c, plain c → IsPlain c) :
    unescape (Utf8.encode spelling) = Utf8.encode text := by
  induction spelled with
  | nil => rfl
  | cons c spelling rest text first _ ih =>
    have apart : Utf8.encode (spelling ++ text) = Utf8.encode spelling ++ Utf8.encode text :=
      List.flatMap_append
    rw [apart, first.unescape isPlain, ih]
    rfl

theorem Spelled.decodeComponent {text spelling : List Char} (spelled : Spelled plain text spelling)
    (isPlain : ∀ c, plain c → IsPlain c) : decodeComponent spelling = String.ofList text := by
  rw [Query.decodeComponent, spelled.unescape isPlain, Utf8.decode_encode]

/-- A sign that may not stand for itself is in no spelling, not even of itself. -/
theorem Spelled.clear {text spelling : List Char} (spelled : Spelled plain text spelling)
    {sign : Char} (notPlain : ¬ plain sign) (notPercent : sign ≠ '%') (notPlus : sign ≠ '+')
    (notDigit : sign.isAlphanum = false) : sign ∉ spelling := by
  induction spelled with
  | nil => exact List.not_mem_nil
  | cons c spelling rest text first _ ih =>
    rw [List.mem_append, not_or]
    refine ⟨?_, ih⟩
    cases first with
    | raw _ isPlain =>
      rw [List.mem_singleton]
      intro same
      exact notPlain (same ▸ isPlain)
    | escaped _ _ escaped => exact escaped.clear notPercent notDigit
    | plus => simpa using notPlus

theorem Spelled.ne_nil {text spelling : List Char} (spelled : Spelled plain text spelling)
    (nonempty : text ≠ []) : spelling ≠ [] := by
  cases spelled with
  | nil => exact absurd rfl nonempty
  | cons c spelling rest text first _ =>
    cases first with
    | raw => exact List.cons_ne_nil _ _
    | plus => exact List.cons_ne_nil _ _
    | escaped _ _ escaped =>
      generalize octets : String.utf8EncodeChar c = encoded at escaped
      cases escaped with
      | nil => exact absurd octets (String.utf8EncodeChar_ne_nil)
      | cons => exact List.cons_ne_nil _ _

theorem Spelled.exists_spelling (text : List Char) : ∃ spelling, Spelled plain text spelling := by
  induction text with
  | nil => exact ⟨[], .nil⟩
  | cons c rest ih =>
    obtain ⟨spelling, onward⟩ := ih
    obtain ⟨escape, escaped⟩ := Escaped.exists_text (String.utf8EncodeChar c)
    exact ⟨escape ++ spelling, .cons c escape rest spelling (.escaped c escape escaped) onward⟩

/-! ## Pairs -/

/-- An equals sign ends a name, so a name does not hold one as itself. -/
def IsNamePlain (c : Char) : Prop := IsPlain c ∧ c ≠ '='

/-- A name and a value; the sign between them may be missing if the value is, but not the name. -/
inductive PairSpelled : String × String → List Char → Prop where
  | full (pair : String × String) (name value : List Char)
      (first : Spelled IsNamePlain pair.1.toList name)
      (second : Spelled IsPlain pair.2.toList value) : PairSpelled pair (name ++ '=' :: value)
  | bare (pair : String × String) (name : List Char)
      (first : Spelled IsNamePlain pair.1.toList name) (named : pair.1 ≠ "")
      (valueless : pair.2 = "") : PairSpelled pair name

/-- Pairs with at least one ampersand between them, and any number around them. -/
inductive ListSpelled : Pairs → List Char → Prop where
  | nil (ampersands : Nat) : ListSpelled [] (List.replicate ampersands '&')
  | last (ampersands : Nat) (pair : String × String) (piece : List Char)
      (spelled : PairSpelled pair piece) :
      ListSpelled [pair] (List.replicate ampersands '&' ++ piece)
  | cons (ampersands : Nat) (pair : String × String) (piece : List Char) (rest : Pairs)
      (text : List Char) (spelled : PairSpelled pair piece) (onward : ListSpelled rest text) :
      ListSpelled (pair :: rest) (List.replicate ampersands '&' ++ (piece ++ '&' :: text))

/-- A query with or without a question mark of its own in front. -/
inductive Pairs.Spelled : Pairs → String → Prop where
  | marked (pairs : Pairs) (text : List Char) (spelled : ListSpelled pairs text) :
      Spelled pairs (String.ofList ('?' :: text))
  | unmarked (pairs : Pairs) (text : List Char) (spelled : ListSpelled pairs text)
      (noMark : text.head? ≠ some '?') : Spelled pairs (String.ofList text)

theorem IsNamePlain.isPlain (c : Char) (plain : IsNamePlain c) : IsPlain c := plain.1

namespace PairSpelled

variable {pair : String × String} {piece : List Char}

theorem decodePair (spelled : PairSpelled pair piece) : decodePair piece = pair := by
  have clear {name : List Char} (first : Query.Spelled IsNamePlain pair.1.toList name) :
      '=' ∉ name :=
    first.clear (fun plain => plain.2 rfl) (by decide) (by decide) (by decide)
  cases spelled with
  | full name value first second =>
    rw [Query.decodePair, splitFirst_append (clear first)]
    simp only [Option.getD_some]
    rw [first.decodeComponent IsNamePlain.isPlain, second.decodeComponent fun _ plain => plain,
      String.ofList_toList, String.ofList_toList]
  | bare _ first named valueless =>
    rw [Query.decodePair, splitFirst_eq_self (clear first)]
    simp only [Option.getD_none]
    rw [first.decodeComponent IsNamePlain.isPlain, String.ofList_toList]
    exact Prod.ext rfl valueless.symm

theorem ne_nil (spelled : PairSpelled pair piece) : piece ≠ [] := by
  cases spelled with
  | full name value first second => simp
  | bare _ first named valueless => exact first.ne_nil (by simpa using named)

theorem clear (spelled : PairSpelled pair piece) : ∀ c ∈ piece, (c == '&') = false := by
  have absent : '&' ∉ piece := by
    cases spelled with
    | full name value first second =>
      have inName : '&' ∉ name :=
        first.clear (fun plain => plain.1.1 rfl) (by decide) (by decide) (by decide)
      have inValue : '&' ∉ value :=
        second.clear (fun plain => plain.1 rfl) (by decide) (by decide) (by decide)
      simp [inName, inValue]
    | bare _ first named valueless =>
      exact first.clear (fun plain => plain.1.1 rfl) (by decide) (by decide) (by decide)
  intro c member
  rw [beq_eq_false_iff_ne]
  intro same
  exact absent (same ▸ member)

theorem exists_piece (pair : String × String) : ∃ piece, PairSpelled pair piece := by
  obtain ⟨name, first⟩ : ∃ name, Query.Spelled IsNamePlain pair.1.toList name :=
    Query.Spelled.exists_spelling _
  obtain ⟨value, second⟩ : ∃ value, Query.Spelled IsPlain pair.2.toList value :=
    Query.Spelled.exists_spelling _
  exact ⟨_, .full pair name value first second⟩

end PairSpelled

namespace ListSpelled

theorem map_decodePair {pairs : Pairs} {text : List Char} (spelled : ListSpelled pairs text) :
    (pieces (· == '&') text).map decodePair = pairs := by
  have all (count : Nat) : ∀ c ∈ List.replicate count '&', (c == '&') = true := by
    intro c member
    exact beq_iff_eq.mpr (List.eq_of_mem_replicate member)
  induction spelled with
  | nil ampersands =>
    rw [← List.append_nil (List.replicate ampersands '&'), pieces_separators _ _ (all _),
      pieces_nil]
    rfl
  | last ampersands pair piece spelled =>
    rw [pieces_separators _ _ (all _), pieces_word spelled.ne_nil spelled.clear, List.map_singleton,
      spelled.decodePair]
  | cons ampersands pair piece rest text spelled _ ih =>
    have cut := @pieces_append_cons (· == '&') '&' rfl piece text
    rw [pieces_separators _ _ (all _), cut, pieces_word spelled.ne_nil spelled.clear, List.map_append,
      ih, List.map_singleton, spelled.decodePair]
    rfl

theorem exists_text (pairs : Pairs) : ∃ text, ListSpelled pairs text := by
  induction pairs with
  | nil => exact ⟨_, .nil 0⟩
  | cons pair rest ih =>
    obtain ⟨text, onward⟩ := ih
    obtain ⟨piece, spelled⟩ := PairSpelled.exists_piece pair
    exact ⟨_, .cons 0 pair piece rest text spelled onward⟩

end ListSpelled

theorem dropQuestionMark_of_head?_ne {text : List Char} (noMark : text.head? ≠ some '?') :
    dropQuestionMark text = text := by
  unfold dropQuestionMark
  split
  next => exact absurd rfl noMark
  next => rfl

/-- Every list of pairs has a spelling, and each of its spellings is read as that list, in order. -/
theorem Pairs.parse_spelled (pairs : Pairs) :
    (∃ text, pairs.Spelled text) ∧ ∀ text, pairs.Spelled text → parse text = pairs := by
  refine ⟨?_, ?_⟩
  · obtain ⟨text, spelled⟩ := ListSpelled.exists_text pairs
    exact ⟨_, .marked pairs text spelled⟩
  · intro text spelled
    cases spelled with
    | marked text spelled =>
      rw [parse, String.toList_ofList]
      exact spelled.map_decodePair
    | unmarked text spelled noMark =>
      rw [parse, String.toList_ofList, dropQuestionMark_of_head?_ne noMark]
      exact spelled.map_decodePair

/-- An escaped letter with digits of either case, a plus sign, an empty pair and a bare name. -/
theorem Pairs.parse_spelled_mixed :
    let pairs : Pairs := [("é a", "="), ("", ""), ("b", "")]
    pairs.Spelled "?%C3%a9+a==&&=&b&" ∧ parse "?%C3%a9+a==&&=&b&" = pairs := by
  intro pairs
  have letter : Escaped (String.utf8EncodeChar 'é') "%C3%a9".toList :=
    .cons 0xc3 _ _ _ _ (.upper 12 (by decide)) (.lower 3 (by decide))
      (.cons 0xa9 _ _ _ _ (.lower 10 (by decide)) (.lower 9 (by decide)) .nil)
  have name : Query.Spelled IsNamePlain "é a".toList "%C3%a9+a".toList :=
    .cons 'é' _ _ _ (.escaped _ _ letter) (.cons ' ' _ _ _ .plus
      (.cons 'a' _ _ _ (.raw _ ⟨⟨by decide, by decide, by decide⟩, by decide⟩) .nil))
  have value : Query.Spelled IsPlain "=".toList "=".toList :=
    .cons '=' _ _ _ (.raw _ ⟨by decide, by decide, by decide⟩) .nil
  have bare : Query.Spelled IsNamePlain "b".toList "b".toList :=
    .cons 'b' _ _ _ (.raw _ ⟨⟨by decide, by decide, by decide⟩, by decide⟩) .nil
  have last : ListSpelled [("b", "")] "b&".toList :=
    .cons 0 _ "b".toList [] _ (.bare ("b", "") _ bare (by decide) rfl) (.nil 0)
  have empty : ListSpelled [("", ""), ("b", "")] "&=&b&".toList :=
    .cons 1 ("", "") "=".toList _ _ (.full ("", "") [] [] .nil .nil) last
  have listed : ListSpelled pairs "%C3%a9+a==&&=&b&".toList :=
    .cons 0 ("é a", "=") "%C3%a9+a==".toList _ _ (.full ("é a", "=") _ _ name value) empty
  have spelled : pairs.Spelled "?%C3%a9+a==&&=&b&" := .marked pairs _ listed
  exact ⟨spelled, (parse_spelled pairs).2 _ spelled⟩

end ListQuery.Query
