import Mathlib
import ClassLiterals.Bytes.Basic

/-!
# Big-endian numbers

Writing a number in a fixed width of bytes and reading the bytes back are inverse to each other: a
number that fits the width comes back from its digits, and any bytes are the digits of the number
that they spell. The words of two and four bytes follow.
-/

namespace ClassLiterals
namespace Bytes

/-! ## Digits -/

@[simp] theorem length_ofNat (width n : Nat) : (ofNat width n).length = width := by
  induction width generalizing n with
  | zero => rfl
  | succ width ih => rw [ofNat, List.length_append, ih, List.length_singleton]

theorem toNat_append_singleton (bs : Bytes) (b : UInt8) :
    toNat (bs ++ [b]) = toNat bs * 256 + b.toNat := by
  simp only [toNat, List.foldl_append, List.foldl_cons, List.foldl_nil]

theorem toNat_ofNat {width n : Nat} (h : n < 256 ^ width) : toNat (ofNat width n) = n := by
  induction width generalizing n with
  | zero =>
    have : n = 0 := by simpa using h
    subst this
    rfl
  | succ width ih =>
    have hdiv : n / 256 < 256 ^ width := by
      rw [Nat.div_lt_iff_lt_mul (by decide), ← Nat.pow_succ]
      exact h
    rw [ofNat, toNat_append_singleton, ih hdiv, UInt8.toNat_ofNat']
    omega

/-- Any bytes are the digits of the number that they spell. -/
theorem ofNat_toNat {width : Nat} {bs : Bytes} (h : bs.length = width) :
    ofNat width (toNat bs) = bs := by
  induction width generalizing bs with
  | zero => exact (List.eq_nil_of_length_eq_zero h).symm
  | succ width ih =>
    obtain rfl | ⟨front, last, rfl⟩ := List.eq_nil_or_concat bs
    · simp at h
    · have hlen : front.length = width := by simpa using h
      have hlast := last.toNat_lt
      have hdiv : toNat (front ++ [last]) / 256 = toNat front := by
        rw [toNat_append_singleton]
        omega
      have hmod : UInt8.ofNat (toNat (front ++ [last])) = last := by
        rw [← UInt8.toNat_inj, toNat_append_singleton, UInt8.toNat_ofNat']
        omega
      rw [List.concat_eq_append, ofNat, hdiv, ih hlen, hmod]

theorem toNat_lt (bs : Bytes) : toNat bs < 256 ^ bs.length := by
  induction bs using List.reverseRecOn with
  | nil => decide
  | append_singleton bs b ih =>
    rw [toNat_append_singleton, List.length_append, List.length_singleton, Nat.pow_succ]
    have := b.toNat_lt
    omega

/-! ## Words of two and four bytes -/

@[simp] theorem length_ofUInt16 (v : UInt16) : (ofUInt16 v).length = 2 := length_ofNat 2 v.toNat

@[simp] theorem length_ofUInt32 (v : UInt32) : (ofUInt32 v).length = 4 := length_ofNat 4 v.toNat

theorem uint16_toNat_ofUInt16 (v : UInt16) : UInt16.ofNat (toNat (ofUInt16 v)) = v := by
  rw [ofUInt16, toNat_ofNat v.toNat_lt, UInt16.ofNat_toNat]

theorem uint32_toNat_ofUInt32 (v : UInt32) : UInt32.ofNat (toNat (ofUInt32 v)) = v := by
  rw [ofUInt32, toNat_ofNat v.toNat_lt, UInt32.ofNat_toNat]

theorem ofUInt16_toNat {bs : Bytes} (h : bs.length = 2) :
    ofUInt16 (UInt16.ofNat (toNat bs)) = bs := by
  have hlt : toNat bs < 2 ^ 16 := by
    have := toNat_lt bs
    rwa [h] at this
  rw [ofUInt16, UInt16.toNat_ofNat_of_lt' hlt, ofNat_toNat h]

theorem ofUInt32_toNat {bs : Bytes} (h : bs.length = 4) :
    ofUInt32 (UInt32.ofNat (toNat bs)) = bs := by
  have hlt : toNat bs < 2 ^ 32 := by
    have := toNat_lt bs
    rwa [h] at this
  rw [ofUInt32, UInt32.toNat_ofNat_of_lt' hlt, ofNat_toNat h]

/-! ## Values in a row -/

theorem length_flatMap_of_width {α : Type} {encode : α → Bytes} {width : Nat}
    (hwidth : ∀ a, (encode a).length = width) (as : List α) :
    (as.flatMap encode).length = width * as.length := by
  induction as with
  | nil => rfl
  | cons a as ih => rw [List.flatMap_cons, List.length_append, hwidth, ih, List.length_cons]; ring

/-! ## Having enough bytes -/

@[simp] theorem hasAtLeast_iff (bs : Bytes) (n : Nat) : bs.hasAtLeast n = true ↔ n ≤ bs.length := by
  induction bs generalizing n with
  | nil => cases n <;> simp [hasAtLeast]
  | cons b bs ih => cases n <;> simp [hasAtLeast, ih]

end Bytes
end ClassLiterals
