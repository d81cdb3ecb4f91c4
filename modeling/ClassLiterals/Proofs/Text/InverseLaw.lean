import Mathlib
import ClassLiterals.Text.ModifiedUtf8

/-!
# The inverse law of modified UTF-8

Reading undoes writing, also when more bytes follow: the encoding of a text in front of any bytes
reads as the text followed by what the bytes read as. The law is put together from one step for each
of the three forms of a unit, and one for each of the two kinds of character.

Main result: `decode_inverts_encode`.
-/

namespace ClassLiterals
namespace ModifiedUtf8

/-! ## Reading one unit -/

section Units

variable {x y z : UInt8} (rest : Bytes) (done : List CodeUnit)

theorem isContinuation_iff : isContinuation x = true ↔ 0x80 ≤ x.toNat ∧ x.toNat < 0xC0 := by
  simp [isContinuation, UInt8.le_iff_toNat_le, UInt8.lt_iff_toNat_lt]

theorem units_go_one (hx : x.toNat < 0x80) :
    unitsOfBytes.go (x :: rest) done = unitsOfBytes.go rest (unitOfOne x :: done) := by
  have h1 : x < 0x80 := UInt8.lt_iff_toNat_lt.2 hx
  rw [unitsOfBytes.go.eq_def]
  simp only [h1, if_true]

theorem units_go_two (hx : 0xC0 ≤ x.toNat ∧ x.toNat < 0xE0) (hy : isContinuation y = true) :
    unitsOfBytes.go (x :: y :: rest) done = unitsOfBytes.go rest (unitOfTwo x y :: done) := by
  have h1 : ¬ x < 0x80 := by
    rw [UInt8.lt_iff_toNat_lt]
    exact Nat.not_lt.2 (le_trans (by decide) hx.1)
  have h2 : ¬ x < 0xC0 := by
    rw [UInt8.lt_iff_toNat_lt]
    exact Nat.not_lt.2 hx.1
  have h3 : x < 0xE0 := UInt8.lt_iff_toNat_lt.2 hx.2
  rw [unitsOfBytes.go, if_neg h1, if_neg h2, if_pos h3]
  simp only [hy, if_true]

theorem units_go_three (hx : 0xE0 ≤ x.toNat ∧ x.toNat < 0xF0) (hy : isContinuation y = true)
    (hz : isContinuation z = true) :
    unitsOfBytes.go (x :: y :: z :: rest) done =
      unitsOfBytes.go rest (unitOfThree x y z :: done) := by
  have h1 : ¬ x < 0x80 := by
    rw [UInt8.lt_iff_toNat_lt]
    exact Nat.not_lt.2 (le_trans (by decide) hx.1)
  have h2 : ¬ x < 0xC0 := by
    rw [UInt8.lt_iff_toNat_lt]
    exact Nat.not_lt.2 (le_trans (by decide) hx.1)
  have h3 : ¬ x < 0xE0 := by
    rw [UInt8.lt_iff_toNat_lt]
    exact Nat.not_lt.2 hx.1
  have h4 : x < 0xF0 := UInt8.lt_iff_toNat_lt.2 hx.2
  rw [unitsOfBytes.go, if_neg h1, if_neg h2, if_neg h3, if_pos h4]
  simp only [hy, hz, Bool.and_self, if_true]

end Units

/-- The bytes of a unit read as the unit. -/
theorem units_go_bytesOfUnit (u : CodeUnit) (rest : Bytes) (done : List CodeUnit) :
    unitsOfBytes.go (bytesOfUnit u ++ rest) done = unitsOfBytes.go rest (u :: done) := by
  have hu : u.toNat < 2 ^ 16 := u.toNat_lt
  simp only [bytesOfUnit]
  split_ifs with h1 h2
  · rw [List.singleton_append, units_go_one _ _ (by rw [UInt8.toNat_ofNat']; omega)]
    congr 2
    rw [← UInt16.toNat_inj, unitOfOne, UInt16.toNat_ofNat', UInt8.toNat_ofNat']
    omega
  · simp only [List.cons_append, List.nil_append]
    rw [units_go_two _ _ (by rw [UInt8.toNat_ofNat']; omega)
      (by rw [isContinuation_iff, UInt8.toNat_ofNat']; omega)]
    congr 2
    rw [← UInt16.toNat_inj, unitOfTwo, UInt16.toNat_ofNat', UInt8.toNat_ofNat', UInt8.toNat_ofNat']
    omega
  · simp only [List.cons_append, List.nil_append]
    rw [units_go_three _ _ (by rw [UInt8.toNat_ofNat']; omega)
      (by rw [isContinuation_iff, UInt8.toNat_ofNat']; omega)
      (by rw [isContinuation_iff, UInt8.toNat_ofNat']; omega)]
    congr 2
    rw [← UInt16.toNat_inj, unitOfThree, UInt16.toNat_ofNat', UInt8.toNat_ofNat',
      UInt8.toNat_ofNat', UInt8.toNat_ofNat']
    omega

/-- What was read before stays in front of what is read. -/
theorem units_go_append (bs : Bytes) (done before : List CodeUnit) :
    unitsOfBytes.go bs (done ++ before) = before.reverse ++ unitsOfBytes.go bs done := by
  fun_induction unitsOfBytes.go bs done with
  | case1 done => simp [unitsOfBytes.go]
  | case2 x rest done h1 ih =>
    rw [unitsOfBytes.go.eq_def]
    simpa [h1] using ih
  | case3 x rest done h1 h2 ih =>
    rw [unitsOfBytes.go.eq_def]
    simpa [h1, h2] using ih
  | case4 x done h1 h2 h3 =>
    rw [unitsOfBytes.go.eq_def]
    simp [h1, h2, h3]
  | case5 x done h1 h2 h3 y rest hy ih =>
    rw [unitsOfBytes.go.eq_def]
    simpa [h1, h2, h3, hy] using ih
  | case6 x done h1 h2 h3 y rest hy ih =>
    rw [unitsOfBytes.go.eq_def]
    simpa [h1, h2, h3, hy] using ih
  | case7 x done h1 h2 h3 h4 =>
    rw [unitsOfBytes.go.eq_def]
    simp [h1, h2, h3, h4]
  | case8 x done h1 h2 h3 h4 y =>
    rw [unitsOfBytes.go.eq_def]
    simp [h1, h2, h3, h4]
  | case9 x done h1 h2 h3 h4 y z rest hyz ih =>
    rw [unitsOfBytes.go.eq_def]
    simp only [h1, h2, h3, h4, hyz, if_true, if_false]
    exact ih
  | case10 x done h1 h2 h3 h4 y z rest hyz ih =>
    rw [unitsOfBytes.go.eq_def]
    simp only [h1, h2, h3, h4, hyz, if_true, if_false]
    exact ih
  | case11 x rest done h1 h2 h3 h4 ih =>
    rw [unitsOfBytes.go.eq_def]
    simpa [h1, h2, h3, h4] using ih

theorem units_go_flatMap (us : List CodeUnit) (rest : Bytes) (done : List CodeUnit) :
    unitsOfBytes.go (us.flatMap bytesOfUnit ++ rest) done =
      unitsOfBytes.go rest (us.reverse ++ done) := by
  induction us generalizing done with
  | nil => rfl
  | cons u us ih =>
    rw [List.flatMap_cons, List.append_assoc, units_go_bytesOfUnit, ih]
    simp

/-- The bytes of units in front of other bytes read as the units and what the others read as. -/
theorem unitsOfBytes_flatMap_append (us : List CodeUnit) (bs : Bytes) :
    unitsOfBytes (us.flatMap bytesOfUnit ++ bs) = us ++ unitsOfBytes bs := by
  have h := units_go_append bs [] us.reverse
  rw [List.nil_append, List.reverse_reverse] at h
  rw [unitsOfBytes, units_go_flatMap, List.append_nil, h, unitsOfBytes]

/-! ## Reading one character -/

theorem charsOfUnits_go_append (us : List CodeUnit) (done before : List Char) :
    charsOfUnits.go us (done ++ before) = before.reverse ++ charsOfUnits.go us done := by
  fun_induction charsOfUnits.go us done with
  | case1 done => simp [charsOfUnits.go]
  | case2 u done => simp [charsOfUnits.go]
  | case3 u v rest done huv ih =>
    rw [charsOfUnits.go, if_pos huv]
    exact ih
  | case4 u v rest done huv ih =>
    rw [charsOfUnits.go, if_neg huv]
    exact ih

theorem isHighSurrogate_iff (u : CodeUnit) :
    isHighSurrogate u = true ↔ 0xD800 ≤ u.toNat ∧ u.toNat < 0xDC00 := by
  simp [isHighSurrogate, UInt16.le_iff_toNat_le, UInt16.lt_iff_toNat_lt]

theorem isLowSurrogate_iff (u : CodeUnit) :
    isLowSurrogate u = true ↔ 0xDC00 ≤ u.toNat ∧ u.toNat < 0xE000 := by
  simp [isLowSurrogate, UInt16.le_iff_toNat_le, UInt16.lt_iff_toNat_lt]

theorem char_toNat_range (c : Char) :
    c.toNat < 0xD800 ∨ (0xE000 ≤ c.toNat ∧ c.toNat < 0x110000) := by
  rcases c.valid with h | ⟨h1, h2⟩
  · exact .inl h
  · exact .inr ⟨h1, h2⟩

/-- A character of the basic plane is read from its unit, whatever unit follows. -/
theorem charsOfUnits_go_basic {c : Char} (hc : c.toNat < 0x10000) (rest : List CodeUnit)
    (done : List Char) :
    charsOfUnits.go (UInt16.ofNat c.toNat :: rest) done = charsOfUnits.go rest (c :: done) := by
  have hu : (UInt16.ofNat c.toNat).toNat = c.toNat := UInt16.toNat_ofNat_of_lt' hc
  have hhigh : isHighSurrogate (UInt16.ofNat c.toNat) = false := by
    rw [Bool.eq_false_iff, ne_eq, isHighSurrogate_iff, hu]
    have := char_toNat_range c
    omega
  have hlow : isLowSurrogate (UInt16.ofNat c.toNat) = false := by
    rw [Bool.eq_false_iff, ne_eq, isLowSurrogate_iff, hu]
    have := char_toNat_range c
    omega
  have hchar : charOfUnit (UInt16.ofNat c.toNat) = c := by
    rw [charOfUnit, hhigh, hlow, hu]
    exact Char.ofNat_toNat c
  cases rest with
  | nil => simp [charsOfUnits.go, hchar]
  | cons v rest => simp [charsOfUnits.go, hhigh, hchar]

/-- The numbers of the two surrogates of a character beyond the basic plane. -/
theorem toNat_surrogates (c : Char) :
    (UInt16.ofNat (0xD800 + (c.toNat - 0x10000) / 0x400)).toNat =
        0xD800 + (c.toNat - 0x10000) / 0x400 ∧
      (UInt16.ofNat (0xDC00 + (c.toNat - 0x10000) % 0x400)).toNat =
        0xDC00 + (c.toNat - 0x10000) % 0x400 := by
  have hrange := char_toNat_range c
  constructor
  · exact UInt16.toNat_ofNat_of_lt' (by change _ < 2 ^ 16; omega)
  · exact UInt16.toNat_ofNat_of_lt' (by change _ < 2 ^ 16; omega)

/-- A character beyond the basic plane is read from its pair of units. -/
theorem charsOfUnits_go_pair {c : Char} (hc : 0x10000 ≤ c.toNat) (rest : List CodeUnit)
    (done : List Char) :
    charsOfUnits.go (unitsOfChar c ++ rest) done = charsOfUnits.go rest (c :: done) := by
  have hrange := char_toNat_range c
  obtain ⟨hhigh, hlow⟩ := toNat_surrogates c
  have hpair : (isHighSurrogate (UInt16.ofNat (0xD800 + (c.toNat - 0x10000) / 0x400)) &&
      isLowSurrogate (UInt16.ofNat (0xDC00 + (c.toNat - 0x10000) % 0x400))) = true := by
    rw [Bool.and_eq_true, isHighSurrogate_iff, isLowSurrogate_iff, hhigh, hlow]
    omega
  have hchar : charOfPair (UInt16.ofNat (0xD800 + (c.toNat - 0x10000) / 0x400))
      (UInt16.ofNat (0xDC00 + (c.toNat - 0x10000) % 0x400)) = c := by
    rw [charOfPair, hhigh, hlow]
    have hsum : 0x10000 + (0xD800 + (c.toNat - 0x10000) / 0x400 - 0xD800) * 0x400 +
        (0xDC00 + (c.toNat - 0x10000) % 0x400 - 0xDC00) = c.toNat := by omega
    rw [hsum, Char.ofNat_toNat]
  rw [unitsOfChar, if_neg (by omega), List.cons_append, List.cons_append, charsOfUnits.go,
    if_pos hpair, hchar, List.nil_append]

theorem charsOfUnits_go_unitsOfChar (c : Char) (rest : List CodeUnit) (done : List Char) :
    charsOfUnits.go (unitsOfChar c ++ rest) done = charsOfUnits.go rest (c :: done) := by
  by_cases hc : c.toNat < 0x10000
  · rw [unitsOfChar, if_pos hc]
    exact charsOfUnits_go_basic hc rest done
  · exact charsOfUnits_go_pair (by omega) rest done

theorem charsOfUnits_go_flatMap (cs : List Char) (rest : List CodeUnit) (done : List Char) :
    charsOfUnits.go (cs.flatMap unitsOfChar ++ rest) done =
      charsOfUnits.go rest (cs.reverse ++ done) := by
  induction cs generalizing done with
  | nil => rfl
  | cons c cs ih =>
    rw [List.flatMap_cons, List.append_assoc, charsOfUnits_go_unitsOfChar, ih]
    simp

/-- The units of characters in front of other units spell the characters and what the others
spell. -/
theorem charsOfUnits_flatMap_append (cs : List Char) (us : List CodeUnit) :
    charsOfUnits (cs.flatMap unitsOfChar ++ us) = cs ++ charsOfUnits us := by
  have h := charsOfUnits_go_append us [] cs.reverse
  rw [List.nil_append, List.reverse_reverse] at h
  rw [charsOfUnits, charsOfUnits_go_flatMap, List.append_nil, h, charsOfUnits]

/-! ## Texts -/

theorem encode_eq_flatMap (text : String) :
    encode text = (text.toList.flatMap unitsOfChar).flatMap bytesOfUnit := by
  rw [encode, List.flatMap_assoc]
  rfl

/-- Reading the encoding of a text in front of other bytes. -/
theorem decode_encode_append (text : String) (bs : Bytes) :
    decode (encode text ++ bs) = text ++ decode bs := by
  rw [decode, encode_eq_flatMap, unitsOfBytes_flatMap_append, charsOfUnits_flatMap_append,
    String.ofList_append, String.ofList_toList, decode]

/-- Reading undoes writing. -/
theorem decode_encode (text : String) : decode (encode text) = text := by
  have h := decode_encode_append text []
  rw [List.append_nil] at h
  rw [h]
  exact String.append_empty

/-! ## Sizes, and the bytes that occur -/

theorem length_bytesOfUnit (u : CodeUnit) :
    (bytesOfUnit u).length =
      if 0 < u.toNat ∧ u.toNat < 0x80 then 1 else if u.toNat < 0x800 then 2 else 3 := by
  simp only [bytesOfUnit]
  split_ifs <;> rfl

theorem length_bytesOfChar (c : Char) : (bytesOfChar c).length = charSize c := by
  have hrange := char_toNat_range c
  rw [bytesOfChar, unitsOfChar, charSize]
  by_cases hc : c.toNat < 0x10000
  · have hu : (UInt16.ofNat c.toNat).toNat = c.toNat := UInt16.toNat_ofNat_of_lt' hc
    simp only [if_pos hc, List.flatMap_cons, List.flatMap_nil, List.append_nil,
      length_bytesOfUnit, hu]
    split_ifs <;> omega
  · -- Both units are surrogates, which take three bytes each.
    obtain ⟨hhigh, hlow⟩ := toNat_surrogates c
    simp only [if_neg hc, List.flatMap_cons, List.flatMap_nil, List.append_nil,
      List.length_append, length_bytesOfUnit, hhigh, hlow]
    split_ifs <;> omega

theorem foldl_charSize (cs : List Char) (n : Nat) :
    cs.foldl (fun size c => size + charSize c) n = n + (cs.flatMap bytesOfChar).length := by
  induction cs generalizing n with
  | nil => rfl
  | cons c cs ih =>
    rw [List.foldl_cons, ih, List.flatMap_cons, List.length_append, length_bytesOfChar]
    omega

/-- The size that is told without writing the bytes is the number of the bytes. -/
theorem encodedSize_eq_length (text : String) : encodedSize text = (encode text).length := by
  rw [encodedSize, foldl_charSize, Nat.zero_add, encode]

theorem bounds_of_mem_bytesOfUnit {u : CodeUnit} {x : UInt8} (h : x ∈ bytesOfUnit u) :
    0 < x.toNat ∧ x.toNat < 0xF0 := by
  have hu : u.toNat < 2 ^ 16 := u.toNat_lt
  simp only [bytesOfUnit] at h
  split_ifs at h with h1 h2
  · rw [List.mem_singleton] at h
    subst h
    rw [UInt8.toNat_ofNat']
    omega
  · simp only [List.mem_cons, List.not_mem_nil, or_false] at h
    rcases h with rfl | rfl <;> rw [UInt8.toNat_ofNat'] <;> omega
  · simp only [List.mem_cons, List.not_mem_nil, or_false] at h
    rcases h with rfl | rfl | rfl <;> rw [UInt8.toNat_ofNat'] <;> omega

/-- No byte of a text is zero or starts a form of more than three bytes. -/
theorem bounds_of_mem_encode {text : String} {x : UInt8} (h : x ∈ encode text) :
    0 < x.toNat ∧ x.toNat < 0xF0 := by
  rw [encode_eq_flatMap, List.mem_flatMap] at h
  obtain ⟨u, -, hx⟩ := h
  exact bounds_of_mem_bytesOfUnit hx

/-- **The inverse law of modified UTF-8.**  The encoding of a text in front of any bytes reads as
the text followed by what the bytes read as; by itself it reads as the text. Its size is the one
that is told without writing it, and its bytes are neither zero nor above `0xEF`. -/
theorem decode_inverts_encode (text : String) :
    (∀ bs : Bytes, decode (encode text ++ bs) = text ++ decode bs) ∧
      decode (encode text) = text ∧
      encodedSize text = (encode text).length ∧
      ∀ x ∈ encode text, x ≠ 0x00 ∧ ¬ (0xF0 ≤ x ∧ x ≤ 0xFF) := by
  refine ⟨decode_encode_append text, decode_encode text, encodedSize_eq_length text, ?_⟩
  intro x hx
  obtain ⟨hpos, hlt⟩ := bounds_of_mem_encode hx
  constructor
  · rintro rfl
    exact absurd hpos (by decide)
  · rintro ⟨hle, -⟩
    rw [UInt8.le_iff_toNat_le] at hle
    exact absurd hlt (Nat.not_lt.2 hle)

end ModifiedUtf8
end ClassLiterals
