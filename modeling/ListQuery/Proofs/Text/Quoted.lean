import ListQuery.Text.Hex
import ListQuery.Text.Quoted
import Mathlib.Tactic.SplitIfs

/-!
# Quoted text: no two texts are quoted alike

Each escape can be told from what follows it: a letter after a backslash has one meaning, and the
digits of a number end at a brace, which is no digit (`readEscaped_escaped`). So the characters of a
text are read back one by one (`flatMap_escaped_injective`).
-/
namespace ListQuery.Text

/-! ## Hexadecimal numbers -/

/-- The number that hexadecimal digits write. -/
def hexWorth (digits : List Char) : Nat :=
  digits.foldl (fun worth digit => 16 * worth + (hexValue? digit).getD 0) 0

theorem hexWorth_append_singleton (digits : List Char) (digit : Char) :
    hexWorth (digits ++ [digit]) = 16 * hexWorth digits + (hexValue? digit).getD 0 := by
  simp [hexWorth]

theorem hexWorth_toDigits (n : Nat) : hexWorth (Nat.toDigits 16 n) = n := by
  induction n using Nat.strongRecOn with
  | ind n ih =>
    by_cases small : n < 16
    · rw [Nat.toDigits_of_lt_base small]
      simp [hexWorth, hexValue?_digitChar n small]
    · have value := hexValue?_digitChar (n % 16) (Nat.mod_lt n (by decide))
      rw [Nat.toDigits_of_base_le (by decide) (by omega), hexWorth_append_singleton,
        ih (n / 16) (by omega), value, Option.getD_some]
      omega

theorem isSome_hexValue?_of_mem_toDigits {n : Nat} {c : Char} (member : c ∈ Nat.toDigits 16 n) :
    (hexValue? c).isSome = true := by
  induction n using Nat.strongRecOn with
  | ind n ih =>
    by_cases small : n < 16
    · rw [Nat.toDigits_of_lt_base small, List.mem_singleton] at member
      rw [member, hexValue?_digitChar n small]
      rfl
    · rw [Nat.toDigits_of_base_le (by decide) (by omega), List.mem_append,
        List.mem_singleton] at member
      rcases member with earlier | last
      · exact ih (n / 16) (by omega) earlier
      · rw [last, hexValue?_digitChar (n % 16) (Nat.mod_lt n (by decide))]
        rfl

/-! ## Escapes -/

/-- What a character after a backslash stands for. -/
def markMeaning? : Char → Option Char
  | '"' => some '"'
  | '\\' => some '\\'
  | 't' => some '\t'
  | 'r' => some '\r'
  | 'n' => some '\n'
  | '0' => some '\x00'
  | _ => none

/-- The character that a text starts with when it is escaped, and the text after it. -/
def readEscaped : List Char → Option (Char × List Char)
  | '\\' :: 'u' :: '{' :: rest =>
    some (Char.ofNat (hexWorth (rest.takeWhile (· != '}'))), (rest.dropWhile (· != '}')).drop 1)
  | '\\' :: mark :: rest => (markMeaning? mark).map fun c => (c, rest)
  | c :: rest => some (c, rest)
  | [] => none

/-- How a character is written: after a backslash, by its number, or as itself. -/
inductive Escape (c : Char) : List Char → Prop where
  | marked (mark : Char) (meaning : markMeaning? mark = some c) : Escape c ['\\', mark]
  | numbered : Escape c (['\\', 'u', '{'] ++ Nat.toDigits 16 c.toNat ++ ['}'])
  | raw (notBackslash : c ≠ '\\') : Escape c [c]

theorem escape_escaped (c : Char) : Escape c (escaped c) := by
  unfold escaped
  split_ifs with quote backslash tab carriage newline zero hidden
  · exact .marked '"' (by rw [quote]; rfl)
  · exact .marked '\\' (by rw [backslash]; rfl)
  · exact .marked 't' (by rw [tab]; rfl)
  · exact .marked 'r' (by rw [carriage]; rfl)
  · exact .marked 'n' (by rw [newline]; rfl)
  · exact .marked '0' (by rw [zero]; rfl)
  · exact .numbered
  · exact .raw backslash

theorem readEscaped_escaped (c : Char) (rest : List Char) :
    readEscaped (escaped c ++ rest) = some (c, rest) := by
  have escape := escape_escaped c
  generalize escaped c = written at escape
  cases escape with
  | marked mark meaning =>
    have notNumber : mark ≠ 'u' := by
      rintro rfl
      cases meaning
    simp [readEscaped, notNumber, meaning]
  | numbered =>
    have digits : ∀ digit ∈ Nat.toDigits 16 c.toNat, (digit != '}') = true := by
      intro digit member
      have value := isSome_hexValue?_of_mem_toDigits member
      refine bne_iff_ne.mpr ?_
      rintro rfl
      contradiction
    simp only [List.cons_append, List.nil_append, List.append_assoc, readEscaped]
    rw [List.takeWhile_append_of_pos digits, List.dropWhile_append_of_pos digits]
    simp [hexWorth_toDigits]
  | raw notBackslash => simp [readEscaped, notBackslash]

theorem flatMap_escaped_injective {first second : List Char}
    (same : first.flatMap escaped = second.flatMap escaped) : first = second := by
  induction first generalizing second with
  | nil =>
    cases second with
    | nil => rfl
    | cons c rest =>
      have read := congrArg readEscaped same
      rw [List.flatMap_cons, readEscaped_escaped] at read
      cases read
  | cons c rest ih =>
    have read := congrArg readEscaped same
    rw [List.flatMap_cons, readEscaped_escaped] at read
    cases second with
    | nil => cases read
    | cons d others =>
      rw [List.flatMap_cons, readEscaped_escaped, Option.some.injEq, Prod.mk.injEq] at read
      rw [read.1, ih read.2]

theorem quoted_inj {first second : String} : quoted first = quoted second ↔ first = second := by
  constructor
  · intro same
    have written := congrArg String.toList same
    simp only [quoted, String.toList_ofList, List.cons.injEq, true_and] at written
    exact String.toList_inj.mp (flatMap_escaped_injective (List.append_cancel_right written))
  · exact congrArg quoted

/-- A character that is written by its number, and a text that spells the same number out. -/
example : quoted "\u00a0" = "\"\\u\x7ba0\x7d\"" ∧ quoted "\\u\x7ba0\x7d" = "\"\\\\u\x7ba0\x7d\"" := by
  decide +kernel

end ListQuery.Text
