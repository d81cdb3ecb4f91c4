import ClassLiterals.Proofs.Text.InverseLaw

/-!
# Canonical modified UTF-8

Many byte strings read as one text, but only one of them is what the text is written as. A byte
string that is written again as it was read is *canonical*, and such byte strings can be told by
their shape: they are made of the forms that characters are written as, one after the other. A zero
byte, a form that is longer than it has to be, a surrogate without its partner, a byte that starts
no form and a form that is cut off are read all the same, and lost when the text is written.

Main result: `encode_decode_canonical`.
-/

namespace ClassLiterals
namespace ModifiedUtf8

/-! ## Forms -/

/-- The byte is one of those from `low` to `high`. -/
def Within (low high : Nat) (x : UInt8) : Prop := low ≤ x.toNat ∧ x.toNat ≤ high

/-- The number that a form of two bytes spells: the low bits of both, those of the first one in
front. -/
def numberOfTwo (x y : UInt8) : Nat := (x.toNat - 0xC0) * 0x40 + (y.toNat - 0x80)

/-- The number that a form of three bytes spells. -/
def numberOfThree (x y z : UInt8) : Nat :=
  (x.toNat - 0xE0) * 0x1000 + (y.toNat - 0x80) * 0x40 + (z.toNat - 0x80)

/-- A canonical form, which is what a character is written as. -/
inductive CanonicalForm : Bytes → Prop where
  /-- One byte, which is not zero. -/
  | one {x : UInt8} (hx : Within 0x01 0x7F x) : CanonicalForm [x]
  /-- The two bytes of the character zero. -/
  | zero : CanonicalForm [0xC0, 0x80]
  /-- Two bytes for a number that does not fit into one. -/
  | two {x y : UInt8} (hx : Within 0xC2 0xDF x) (hy : Within 0x80 0xBF y) : CanonicalForm [x, y]
  /-- Three bytes for a number that does not fit into two, and is no surrogate. -/
  | three {x y z : UInt8} (hx : Within 0xE0 0xEF x) (hy : Within 0x80 0xBF y)
      (hz : Within 0x80 0xBF z) (hlong : 0x0800 ≤ numberOfThree x y z)
      (hsurrogate : ¬ (0xD800 ≤ numberOfThree x y z ∧ numberOfThree x y z ≤ 0xDFFF)) :
      CanonicalForm [x, y, z]
  /-- A high surrogate, and a low one right behind it. -/
  | pair {y z v w : UInt8} (hy : Within 0xA0 0xAF y) (hz : Within 0x80 0xBF z)
      (hv : Within 0xB0 0xBF v) (hw : Within 0x80 0xBF w) :
      CanonicalForm [0xED, y, z, 0xED, v, w]

/-- The bytes are canonical forms, one after the other. -/
def IsCanonical (bs : Bytes) : Prop :=
  ∃ forms : List Bytes, (∀ form ∈ forms, CanonicalForm form) ∧ forms.flatten = bs

/-! ## Forms and units -/

section Units

variable {x y z : UInt8}

theorem byte_eq_of_eq_toNat {n : Nat} (h : n = x.toNat) : UInt8.ofNat n = x := by
  rw [h, UInt8.ofNat_toNat]

theorem bytesOfUnit_of_one (hx : Within 0x01 0x7F x) :
    bytesOfUnit (UInt16.ofNat x.toNat) = [x] := by
  unfold Within at hx
  have hlt : x.toNat < 0x10000 := by omega
  have hu : (UInt16.ofNat x.toNat).toNat = x.toNat := UInt16.toNat_ofNat_of_lt' hlt
  simp only [bytesOfUnit, hu]
  rw [if_pos (by omega), UInt8.ofNat_toNat]

theorem bytesOfUnit_of_two (hx : Within 0xC2 0xDF x) (hy : Within 0x80 0xBF y) :
    bytesOfUnit (UInt16.ofNat (numberOfTwo x y)) = [x, y] := by
  unfold Within at hx hy
  have hnumber : numberOfTwo x y = (x.toNat - 0xC0) * 0x40 + (y.toNat - 0x80) := rfl
  have hlt : numberOfTwo x y < 0x10000 := by omega
  have hu : (UInt16.ofNat (numberOfTwo x y)).toNat = numberOfTwo x y :=
    UInt16.toNat_ofNat_of_lt' hlt
  have h1 : UInt8.ofNat (0xC0 + numberOfTwo x y / 0x40) = x := byte_eq_of_eq_toNat (by omega)
  have h2 : UInt8.ofNat (0x80 + numberOfTwo x y % 0x40) = y := byte_eq_of_eq_toNat (by omega)
  simp only [bytesOfUnit, hu]
  rw [if_neg (by omega), if_pos (by omega), h1, h2]

theorem bytesOfUnit_of_three (hx : Within 0xE0 0xEF x) (hy : Within 0x80 0xBF y)
    (hz : Within 0x80 0xBF z) (hlong : 0x0800 ≤ numberOfThree x y z) :
    bytesOfUnit (UInt16.ofNat (numberOfThree x y z)) = [x, y, z] := by
  unfold Within at hx hy hz
  have hnumber : numberOfThree x y z =
    (x.toNat - 0xE0) * 0x1000 + (y.toNat - 0x80) * 0x40 + (z.toNat - 0x80) := rfl
  have hlt : numberOfThree x y z < 0x10000 := by omega
  have hu : (UInt16.ofNat (numberOfThree x y z)).toNat = numberOfThree x y z :=
    UInt16.toNat_ofNat_of_lt' hlt
  have h1 : UInt8.ofNat (0xE0 + numberOfThree x y z / 0x1000) = x :=
    byte_eq_of_eq_toNat (by omega)
  have h2 : UInt8.ofNat (0x80 + numberOfThree x y z / 0x40 % 0x40) = y :=
    byte_eq_of_eq_toNat (by omega)
  have h3 : UInt8.ofNat (0x80 + numberOfThree x y z % 0x40) = z := byte_eq_of_eq_toNat (by omega)
  simp only [bytesOfUnit, hu]
  rw [if_neg (by omega), if_neg (by omega), h1, h2, h3]

/-- A unit from `0x0800` on takes three bytes, which spell its number. -/
theorem exists_three_of_unit {n : Nat} (hlong : 0x0800 ≤ n) (hlt : n < 0x10000) :
    ∃ x y z, Within 0xE0 0xEF x ∧ Within 0x80 0xBF y ∧ Within 0x80 0xBF z ∧
      numberOfThree x y z = n ∧ bytesOfUnit (UInt16.ofNat n) = [x, y, z] := by
  have h1 : (UInt8.ofNat (0xE0 + n / 0x1000)).toNat = 0xE0 + n / 0x1000 :=
    UInt8.toNat_ofNat_of_lt' (by change _ < 2 ^ 8; omega)
  have h2 : (UInt8.ofNat (0x80 + n / 0x40 % 0x40)).toNat = 0x80 + n / 0x40 % 0x40 :=
    UInt8.toNat_ofNat_of_lt' (by change _ < 2 ^ 8; omega)
  have h3 : (UInt8.ofNat (0x80 + n % 0x40)).toNat = 0x80 + n % 0x40 :=
    UInt8.toNat_ofNat_of_lt' (by change _ < 2 ^ 8; omega)
  have hx : Within 0xE0 0xEF (UInt8.ofNat (0xE0 + n / 0x1000)) := by unfold Within; omega
  have hy : Within 0x80 0xBF (UInt8.ofNat (0x80 + n / 0x40 % 0x40)) := by unfold Within; omega
  have hz : Within 0x80 0xBF (UInt8.ofNat (0x80 + n % 0x40)) := by unfold Within; omega
  have hnumber : numberOfThree (UInt8.ofNat (0xE0 + n / 0x1000))
      (UInt8.ofNat (0x80 + n / 0x40 % 0x40)) (UInt8.ofNat (0x80 + n % 0x40)) = n := by
    unfold numberOfThree
    omega
  have hbytes := bytesOfUnit_of_three hx hy hz (by rwa [hnumber])
  rw [hnumber] at hbytes
  exact ⟨_, _, _, hx, hy, hz, hnumber, hbytes⟩

/-- The number of a form that starts with the byte of the surrogates. -/
theorem numberOfThree_surrogate (y z : UInt8) :
    numberOfThree 0xED y z = 0xD000 + (y.toNat - 0x80) * 0x40 + (z.toNat - 0x80) :=
  rfl

/-- The bytes of a surrogate. -/
theorem exists_surrogate {n : Nat} (h : 0xD800 ≤ n ∧ n ≤ 0xDFFF) :
    ∃ y z, y.toNat = 0xA0 + (n - 0xD800) / 0x40 ∧ Within 0x80 0xBF z ∧
      bytesOfUnit (UInt16.ofNat n) = [0xED, y, z] := by
  obtain ⟨x, y, z, hx, hy, hz, hnumber, hbytes⟩ :=
    exists_three_of_unit (n := n) (by omega) (by omega)
  have hz' := hz
  unfold Within at hx hy hz'
  unfold numberOfThree at hnumber
  have hED : x = 0xED := by
    rw [← UInt8.toNat_inj]
    change x.toNat = 0xED
    omega
  rw [hED] at hbytes
  exact ⟨y, z, by omega, hz, hbytes⟩

end Units

/-! ## Forms and characters -/

theorem bytesOfChar_basic {c : Char} (hc : c.toNat < 0x10000) :
    bytesOfChar c = bytesOfUnit (UInt16.ofNat c.toNat) := by
  rw [bytesOfChar, unitsOfChar, if_pos hc, List.flatMap_singleton]

theorem bytesOfChar_pair {c : Char} (hc : 0x10000 ≤ c.toNat) : bytesOfChar c =
    bytesOfUnit (UInt16.ofNat (0xD800 + (c.toNat - 0x10000) / 0x400)) ++
      bytesOfUnit (UInt16.ofNat (0xDC00 + (c.toNat - 0x10000) % 0x400)) := by
  rw [bytesOfChar, unitsOfChar, if_neg (Nat.not_lt.2 hc), List.flatMap_cons,
    List.flatMap_singleton]

/-- A character of the basic plane is written as a form of one, two or three bytes. -/
theorem canonicalForm_of_basic {c : Char} (hc : c.toNat < 0x10000) :
    CanonicalForm (bytesOfChar c) := by
  have hrange := char_toNat_range c
  have hu : (UInt16.ofNat c.toNat).toNat = c.toNat := UInt16.toNat_ofNat_of_lt' hc
  rw [bytesOfChar_basic hc]
  by_cases hlong : 0x0800 ≤ c.toNat
  · obtain ⟨x, y, z, hx, hy, hz, hnumber, hbytes⟩ := exists_three_of_unit hlong hc
    rw [hbytes]
    exact .three hx hy hz (by omega) (by omega)
  · by_cases hzero : c.toNat = 0
    · rw [hzero]
      exact .zero
    · simp only [bytesOfUnit, hu]
      split_ifs with h1 h2
      · refine .one ?_
        rw [Within, UInt8.toNat_ofNat']
        omega
      · refine .two ?_ ?_
        · rw [Within, UInt8.toNat_ofNat']
          omega
        · rw [Within, UInt8.toNat_ofNat']
          omega
      · exact absurd (Nat.lt_of_not_le hlong) h2

/-- Every character is written as a canonical form. -/
theorem canonicalForm_bytesOfChar (c : Char) : CanonicalForm (bytesOfChar c) := by
  by_cases hc : c.toNat < 0x10000
  · exact canonicalForm_of_basic hc
  · -- Both surrogates start with one byte; their second bytes tell which is which.
    have hrange := char_toNat_range c
    obtain ⟨y, z, hy, hz, hhigh⟩ :=
      exists_surrogate (n := 0xD800 + (c.toNat - 0x10000) / 0x400) (by omega)
    obtain ⟨v, w, hv, hw, hlow⟩ :=
      exists_surrogate (n := 0xDC00 + (c.toNat - 0x10000) % 0x400) (by omega)
    rw [bytesOfChar_pair (Nat.not_lt.1 hc), hhigh, hlow]
    refine .pair ?_ hz ?_ hw
    · unfold Within
      omega
    · unfold Within
      omega

/-- A number that is no surrogate and not too large is that of a character. -/
theorem exists_char_of_number {n : Nat} (h : n < 0xD800 ∨ (0xDFFF < n ∧ n < 0x110000)) :
    ∃ c : Char, c.toNat = n :=
  ⟨Char.ofNat n, by rw [Char.toNat_ofNat, if_pos h]⟩

/-- Every canonical form is what some character is written as. -/
theorem CanonicalForm.exists_char {form : Bytes} (h : CanonicalForm form) :
    ∃ c, bytesOfChar c = form := by
  cases h with
  | @one x hx =>
    have hlt : x.toNat < 0x80 := Nat.lt_succ_of_le hx.2
    obtain ⟨c, hc⟩ := exists_char_of_number (n := x.toNat) (by omega)
    refine ⟨c, ?_⟩
    rw [bytesOfChar_basic (by omega), hc]
    exact bytesOfUnit_of_one hx
  | zero => exact ⟨Char.ofNat 0, by decide⟩
  | @two x y hx hy =>
    have hlt : numberOfTwo x y < 0x800 := by
      unfold Within at hx hy
      unfold numberOfTwo
      omega
    obtain ⟨c, hc⟩ := exists_char_of_number (n := numberOfTwo x y) (by omega)
    refine ⟨c, ?_⟩
    rw [bytesOfChar_basic (by omega), hc]
    exact bytesOfUnit_of_two hx hy
  | @three x y z hx hy hz hlong hsurrogate =>
    have hlt : numberOfThree x y z < 0x10000 := by
      unfold Within at hx hy hz
      unfold numberOfThree
      omega
    obtain ⟨c, hc⟩ := exists_char_of_number (n := numberOfThree x y z) (by omega)
    refine ⟨c, ?_⟩
    rw [bytesOfChar_basic (by omega), hc]
    exact bytesOfUnit_of_three hx hy hz hlong
  | @pair y z v w hy hz hv hw =>
    have hED : Within 0xE0 0xEF 0xED := ⟨by decide, by decide⟩
    have hy' : Within 0x80 0xBF y := ⟨le_trans (by decide) hy.1, le_trans hy.2 (by decide)⟩
    have hv' : Within 0x80 0xBF v := ⟨le_trans (by decide) hv.1, le_trans hv.2 (by decide)⟩
    have hhigh : 0xD800 ≤ numberOfThree 0xED y z ∧ numberOfThree 0xED y z < 0xDC00 := by
      unfold Within at hy hz
      rw [numberOfThree_surrogate]
      omega
    have hlow : 0xDC00 ≤ numberOfThree 0xED v w ∧ numberOfThree 0xED v w < 0xE000 := by
      unfold Within at hv hw
      rw [numberOfThree_surrogate]
      omega
    obtain ⟨c, hc⟩ := exists_char_of_number (n := 0x10000 +
      ((numberOfThree 0xED y z - 0xD800) * 0x400 + (numberOfThree 0xED v w - 0xDC00))) (by omega)
    have hfirst : 0xD800 + (c.toNat - 0x10000) / 0x400 = numberOfThree 0xED y z := by omega
    have hsecond : 0xDC00 + (c.toNat - 0x10000) % 0x400 = numberOfThree 0xED v w := by omega
    refine ⟨c, ?_⟩
    rw [bytesOfChar_pair (by omega), hfirst, hsecond,
      bytesOfUnit_of_three hED hy' hz (by omega), bytesOfUnit_of_three hED hv' hw (by omega)]
    rfl

/-! ## Texts -/

theorem isCanonical_encode (text : String) : IsCanonical (encode text) := by
  refine ⟨text.toList.map bytesOfChar, ?_, ?_⟩
  · intro form hform
    obtain ⟨c, -, rfl⟩ := List.mem_map.1 hform
    exact canonicalForm_bytesOfChar c
  · rw [← List.flatMap_def, encode]

/-- Canonical forms in a row are what the text of their characters is written as. -/
theorem exists_encode_eq_flatten {forms : List Bytes} (h : ∀ form ∈ forms, CanonicalForm form) :
    ∃ text, encode text = forms.flatten := by
  induction forms with
  | nil => exact ⟨"", rfl⟩
  | cons form forms ih =>
    rw [List.forall_mem_cons] at h
    obtain ⟨c, rfl⟩ := h.1.exists_char
    obtain ⟨text, htext⟩ := ih h.2
    refine ⟨String.ofList (c :: text.toList), ?_⟩
    rw [List.flatten_cons, ← htext, encode, String.toList_ofList, List.flatMap_cons, encode]

/-- Canonical byte strings are those that texts are written as. -/
theorem isCanonical_iff {bs : Bytes} : IsCanonical bs ↔ ∃ text, encode text = bs := by
  constructor
  · rintro ⟨forms, hforms, rfl⟩
    exact exists_encode_eq_flatten hforms
  · rintro ⟨text, rfl⟩
    exact isCanonical_encode text

/-- What is written again as it was read is what some text is written as. -/
theorem encode_decode_eq_iff {bs : Bytes} : encode (decode bs) = bs ↔ ∃ text, encode text = bs := by
  constructor
  · intro h
    exact ⟨decode bs, h⟩
  · rintro ⟨text, rfl⟩
    rw [decode_encode]

instance (bs : Bytes) : Decidable (IsCanonical bs) :=
  decidable_of_iff (encode (decode bs) = bs) (encode_decode_eq_iff.trans isCanonical_iff.symm)

/-- **What is written as it was read.**  Reading bytes and writing the text gives the bytes back
exactly when they are canonical; when they are not, the bytes that it gives read as the same
text. -/
theorem encode_decode_canonical (bs : Bytes) :
    (encode (decode bs) = bs ↔ IsCanonical bs) ∧ decode (encode (decode bs)) = decode bs :=
  ⟨encode_decode_eq_iff.trans isCanonical_iff.symm, decode_encode (decode bs)⟩

/-- A zero byte, an overlong form, surrogates in the wrong order, a continuation without a start and
a form that is cut off are not canonical. -/
example : ¬ IsCanonical [0x00] ∧ ¬ IsCanonical [0xC1, 0x81] ∧
    ¬ IsCanonical [0xED, 0xB8, 0x80, 0xED, 0xA0, 0xBD] ∧ ¬ IsCanonical [0x80] ∧
    ¬ IsCanonical [0x61, 0xE4, 0xBD] := by decide +kernel

end ModifiedUtf8
end ClassLiterals
