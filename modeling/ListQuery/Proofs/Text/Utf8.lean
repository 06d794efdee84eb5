import ListQuery.Text.Utf8

/-!
# UTF-8: decoding gives back what was encoded

A leading octet opens a sequence with as many continuation octets due as the character has further
octets, and each of them adds six bits (`decodeFrom_continued`, `decodeFrom_last`). The narrower
ranges for a second octet leave out exactly what no character is encoded as.
-/
namespace ListQuery.Text.Utf8

theorem start_single (octet : UInt8) (ascii : octet.toNat < 0x80) :
    start octet = ([Char.ofNat octet.toNat], none) := by
  simp only [start, if_pos ascii]

theorem start_two (octet : UInt8) (low : 0xc2 ≤ octet.toNat) (high : octet.toNat < 0xe0) :
    start octet = ([], some ⟨1, octet.toNat - 0xc0, 0x80, 0xbf⟩) := by
  simp only [start]
  rw [if_neg (by omega), if_neg (by omega), if_pos high]

theorem start_three (octet : UInt8) (low : 0xe0 ≤ octet.toNat) (high : octet.toNat < 0xf0) :
    start octet = ([], some ⟨2, octet.toNat - 0xe0,
      if octet.toNat = 0xe0 then 0xa0 else 0x80, if octet.toNat = 0xed then 0x9f else 0xbf⟩) := by
  simp only [start]
  rw [if_neg (by omega), if_neg (by omega), if_neg (by omega)]
  by_cases first : octet.toNat = 0xe0
  · simp [first]
  · by_cases surrogates : octet.toNat = 0xed
    · simp [surrogates]
    · simp [first, surrogates, high]

theorem start_four (octet : UInt8) (low : 0xf0 ≤ octet.toNat) (high : octet.toNat ≤ 0xf4) :
    start octet = ([], some ⟨3, octet.toNat - 0xf0,
      if octet.toNat = 0xf0 then 0x90 else 0x80, if octet.toNat = 0xf4 then 0x8f else 0xbf⟩) := by
  simp only [start]
  rw [if_neg (by omega), if_neg (by omega), if_neg (by omega), if_neg (by omega),
    if_neg (by omega), if_neg (by omega)]
  by_cases first : octet.toNat = 0xf0
  · simp [first]
  · by_cases last : octet.toNat = 0xf4
    · simp [last]
    · have below : octet.toNat < 0xf4 := by omega
      simp [first, last, below]

theorem decodeFrom_continued (due value : Nat) (low high octet : UInt8) (rest : List UInt8)
    (above : low ≤ octet) (below : octet ≤ high) :
    decodeFrom (some ⟨due + 2, value, low, high⟩) (octet :: rest) =
      decodeFrom (some ⟨due + 1, value * 64 + (octet.toNat - 0x80), 0x80, 0xbf⟩) rest := by
  have more : ¬ due + 2 ≤ 1 := by omega
  simp only [decodeFrom, step, if_pos (And.intro above below), if_neg more]
  rfl

theorem decodeFrom_last (value : Nat) (low high octet : UInt8) (rest : List UInt8)
    (above : low ≤ octet) (below : octet ≤ high) :
    decodeFrom (some ⟨1, value, low, high⟩) (octet :: rest) =
      Char.ofNat (value * 64 + (octet.toNat - 0x80)) :: decodeFrom none rest := by
  simp only [decodeFrom, step, if_pos (And.intro above below), if_pos (Nat.le_refl 1)]
  rfl

theorem decodeFrom_none_cons (octet : UInt8) (rest : List UInt8) :
    decodeFrom none (octet :: rest) = (start octet).1 ++ decodeFrom (start octet).2 rest := rfl

-- The bound stands as a number here, since `omega` does not see through `UInt8.size`.
theorem toNat_octet (value : Nat) (fits : value < 256) : (UInt8.ofNat value).toNat = value :=
  UInt8.toNat_ofNat_of_lt' fits

/-- A continuation octet lies in the full range, and its six bits are read off again. -/
theorem continuation_octet (bits : Nat) :
    0x80 ≤ UInt8.ofNat (bits % 64 + 0x80) ∧ UInt8.ofNat (bits % 64 + 0x80) ≤ 0xbf ∧
      (UInt8.ofNat (bits % 64 + 0x80)).toNat - 0x80 = bits % 64 := by
  have value := toNat_octet (bits % 64 + 0x80) (by omega)
  refine ⟨?_, ?_, by omega⟩
  · rw [UInt8.le_iff_toNat_le, value]
    exact Nat.le_add_left _ _
  · rw [UInt8.le_iff_toNat_le, value]
    exact Nat.le_of_lt_succ (Nat.add_lt_add_right (Nat.mod_lt bits (by decide)) 0x80)

theorem decodeFrom_two (v : Nat) (low : 0x80 ≤ v) (high : v < 0x800) (rest : List UInt8) :
    decodeFrom none (UInt8.ofNat (v / 64 % 0x20 + 0xc0) :: UInt8.ofNat (v % 0x40 + 0x80) :: rest) =
      Char.ofNat v :: decodeFrom none rest := by
  have leading := toNat_octet (v / 64 % 0x20 + 0xc0) (by omega)
  obtain ⟨above, below, bits⟩ := continuation_octet v
  rw [decodeFrom_none_cons, start_two _ (by omega) (by omega), List.nil_append,
    decodeFrom_last _ _ _ _ _ above below, bits, leading]
  have value : (v / 64 % 0x20 + 0xc0 - 0xc0) * 64 + v % 64 = v := by omega
  rw [value]

theorem decodeFrom_three (v : Nat) (low : 0x800 ≤ v) (high : v < 0x10000)
    (valid : v < 0xd800 ∨ 0xdfff < v) (rest : List UInt8) :
    decodeFrom none (UInt8.ofNat (v / 4096 % 0x10 + 0xe0) ::
        UInt8.ofNat (v / 64 % 0x40 + 0x80) :: UInt8.ofNat (v % 0x40 + 0x80) :: rest) =
      Char.ofNat v :: decodeFrom none rest := by
  have leading := toNat_octet (v / 4096 % 0x10 + 0xe0) (by omega)
  have second := toNat_octet (v / 64 % 64 + 0x80) (by omega)
  obtain ⟨_, _, secondBits⟩ := continuation_octet (v / 64)
  obtain ⟨above, below, bits⟩ := continuation_octet v
  rw [decodeFrom_none_cons, start_three _ (by omega) (by omega), List.nil_append,
    decodeFrom_continued 0, decodeFrom_last _ _ _ _ _ above below, bits, secondBits, leading]
  · have value : ((v / 4096 % 0x10 + 0xe0 - 0xe0) * 64 + v / 64 % 64) * 64 + v % 64 = v := by omega
    rw [value]
  · rw [UInt8.le_iff_toNat_le, second, leading]
    split
    · change 0xa0 ≤ _
      omega
    · change 0x80 ≤ _
      omega
  · rw [UInt8.le_iff_toNat_le, second, leading]
    split
    · change _ ≤ 0x9f
      omega
    · change _ ≤ 0xbf
      omega

theorem decodeFrom_four (v : Nat) (low : 0x10000 ≤ v) (high : v < 0x110000) (rest : List UInt8) :
    decodeFrom none (UInt8.ofNat (v / 262144 % 0x08 + 0xf0) ::
        UInt8.ofNat (v / 4096 % 0x40 + 0x80) :: UInt8.ofNat (v / 64 % 0x40 + 0x80) ::
        UInt8.ofNat (v % 0x40 + 0x80) :: rest) =
      Char.ofNat v :: decodeFrom none rest := by
  have leading := toNat_octet (v / 262144 % 0x08 + 0xf0) (by omega)
  have second := toNat_octet (v / 4096 % 64 + 0x80) (by omega)
  obtain ⟨_, _, secondBits⟩ := continuation_octet (v / 4096)
  obtain ⟨thirdAbove, thirdBelow, thirdBits⟩ := continuation_octet (v / 64)
  obtain ⟨above, below, bits⟩ := continuation_octet v
  rw [decodeFrom_none_cons, start_four _ (by omega) (by omega), List.nil_append,
    decodeFrom_continued 1, decodeFrom_continued 0 _ _ _ _ _ thirdAbove thirdBelow,
    decodeFrom_last _ _ _ _ _ above below, bits, thirdBits, secondBits, leading]
  · have value : (((v / 262144 % 0x08 + 0xf0 - 0xf0) * 64 + v / 4096 % 64) * 64 +
        v / 64 % 64) * 64 + v % 64 = v := by omega
    rw [value]
  · rw [UInt8.le_iff_toNat_le, second, leading]
    split
    · change 0x90 ≤ _
      omega
    · change 0x80 ≤ _
      omega
  · rw [UInt8.le_iff_toNat_le, second, leading]
    split
    · change _ ≤ 0x8f
      omega
    · change _ ≤ 0xbf
      omega

theorem decodeFrom_utf8EncodeChar (c : Char) (rest : List UInt8) :
    decodeFrom none (String.utf8EncodeChar c ++ rest) = c :: decodeFrom none rest := by
  have valid : c.val.toNat < 0xd800 ∨ (0xdfff < c.val.toNat ∧ c.val.toNat < 0x110000) := c.valid
  have whole : Char.ofNat c.val.toNat = c := Char.ofNat_toNat c
  unfold String.utf8EncodeChar
  dsimp only
  generalize c.val.toNat = v at valid whole ⊢
  rw [← whole]
  split
  next ascii =>
    have octet := toNat_octet v (by omega)
    rw [List.singleton_append, decodeFrom_none_cons, start_single _ (by omega), octet]
    rfl
  next =>
    split
    next => exact decodeFrom_two v (by omega) (by omega) rest
    next =>
      split
      next => exact decodeFrom_three v (by omega) (by omega) (by omega) rest
      next => exact decodeFrom_four v (by omega) (by omega) rest

theorem decode_encode (text : List Char) : decode (encode text) = text := by
  induction text with
  | nil => rfl
  | cons c rest ih =>
    rw [decode, encode, List.flatMap_cons, decodeFrom_utf8EncodeChar]
    exact congrArg (c :: ·) ih

/-- Only the octet of an ASCII character is less than 128. -/
theorem toNat_of_mem_utf8EncodeChar {c : Char} {octet : UInt8}
    (member : octet ∈ String.utf8EncodeChar c) (ascii : octet.toNat < 0x80) :
    octet.toNat = c.toNat := by
  change octet.toNat = c.val.toNat
  unfold String.utf8EncodeChar at member
  dsimp only at member
  generalize c.val.toNat = v at member ⊢
  have leading (value : Nat) (large : 0x80 ≤ value) (fits : value < 256) :
      octet ≠ UInt8.ofNat value := by
    intro same
    subst same
    rw [toNat_octet value fits] at ascii
    omega
  split at member
  next => rw [List.mem_singleton.mp member, toNat_octet v (by omega)]
  next =>
    split at member
    next =>
      simp only [List.mem_cons, List.not_mem_nil, or_false] at member
      rcases member with same | same <;> exact absurd same (leading _ (by omega) (by omega))
    next =>
      split at member
      next =>
        simp only [List.mem_cons, List.not_mem_nil, or_false] at member
        rcases member with same | same | same <;>
          exact absurd same (leading _ (by omega) (by omega))
      next =>
        simp only [List.mem_cons, List.not_mem_nil, or_false] at member
        rcases member with same | same | same | same <;>
          exact absurd same (leading _ (by omega) (by omega))

theorem not_mem_encode {c : Char} {octet : UInt8} (ascii : octet.toNat < 0x80)
    (same : octet.toNat = c.toNat) {text : List Char} (clear : c ∉ text) :
    octet ∉ encode text := by
  intro member
  obtain ⟨d, inside, encoded⟩ := List.mem_flatMap.mp member
  have equal : d = c := by
    rw [← Char.ofNat_toNat d, ← toNat_of_mem_utf8EncodeChar encoded ascii, same, Char.ofNat_toNat]
  exact clear (equal ▸ inside)

end ListQuery.Text.Utf8
