import Mathlib
import ClassLiterals.Bytes.Basic

/-!
# Splicing byte strings

An edit puts other bytes in the place of a stretch of a byte string. A splice makes any number of
edits at once: the positions of all of them are positions in the string as it was, so that none of
them depends on the lengths of the others.
-/

namespace ClassLiterals
namespace Bytes

/-- Other bytes for those from position `start` up to, but not including, position `stop`. -/
structure Edit where
  start : Nat
  stop : Nat
  bytes : Bytes
  deriving DecidableEq, Repr

namespace Edit

/-- The byte at the position is one of those that the edit replaces. -/
def Covers (e : Edit) (position : Nat) : Prop := e.start ≤ position ∧ position < e.stop

instance (e : Edit) (position : Nat) : Decidable (e.Covers position) :=
  inferInstanceAs (Decidable (_ ∧ _))

/-- No byte is replaced by both edits. -/
def Apart (e e' : Edit) : Prop := e.stop ≤ e'.start ∨ e'.stop ≤ e.start

/-- How many bytes more there are after the edit than before. -/
def growth (e : Edit) : Int := e.bytes.length - (e.stop - e.start : Nat)

theorem Apart.not_covers {e e' : Edit} (h : e.Apart e') {position : Nat} (he : e.Covers position) :
    ¬ e'.Covers position := by
  unfold Apart at h
  unfold Covers at he ⊢
  omega

end Edit

/-- What stands for the byte `b` at a position: an edit's bytes for the first byte that it replaces,
nothing for the others, and `b` itself when no edit replaces it. -/
def spliceByte (edits : List Edit) (position : Nat) (b : UInt8) : Bytes :=
  match edits.find? fun e => e.Covers position with
  | none => [b]
  | some e => if position = e.start then e.bytes else []

/-- The part of a byte string from a position on, after the edits. -/
def spliceFrom (edits : List Edit) : (position : Nat) → Bytes → Bytes
  | _, [] => []
  | position, b :: rest => spliceByte edits position b ++ spliceFrom edits (position + 1) rest

/-- The byte string after the edits. -/
def splice (edits : List Edit) (bs : Bytes) : Bytes := spliceFrom edits 0 bs

example : splice [⟨3, 5, [9]⟩, ⟨0, 1, [7, 8]⟩] [0, 1, 2, 3, 4, 5] = [7, 8, 1, 2, 9, 5] := by decide

section SpliceFrom

variable {edits : List Edit} {e : Edit} {position : Nat}

theorem spliceByte_of_not_covers (h : ∀ e ∈ edits, ¬ e.Covers position) (b : UInt8) :
    spliceByte edits position b = [b] := by
  have hnone : edits.find? (fun e => e.Covers position) = none := by simpa using h
  rw [spliceByte, hnone]

theorem spliceByte_of_covers (he : e ∈ edits) (hcovers : e.Covers position)
    (hothers : ∀ e' ∈ edits, e' = e ∨ e.Apart e') (b : UInt8) :
    spliceByte edits position b = if position = e.start then e.bytes else [] := by
  have hsome : edits.find? (fun e => e.Covers position) = some e := by
    obtain ⟨e', hfind⟩ : ∃ e', edits.find? (fun e => e.Covers position) = some e' := by
      rw [← Option.isSome_iff_exists, List.find?_isSome]
      exact ⟨e, he, by simpa using hcovers⟩
    have hcovers' : e'.Covers position := by simpa using List.find?_some hfind
    rcases hothers e' (List.mem_of_find?_eq_some hfind) with rfl | hapart
    · exact hfind
    · exact absurd hcovers' (hapart.not_covers hcovers)
  rw [spliceByte, hsome]

theorem spliceFrom_append (xs ys : Bytes) : spliceFrom edits position (xs ++ ys) =
    spliceFrom edits position xs ++ spliceFrom edits (position + xs.length) ys := by
  induction xs generalizing position with
  | nil => rfl
  | cons b rest ih =>
    rw [List.cons_append, spliceFrom, spliceFrom, ih, List.append_assoc, List.length_cons,
      Nat.add_assoc, Nat.add_comm 1]

/-- Bytes that no edit replaces stay. -/
theorem spliceFrom_of_outside {bs : Bytes}
    (h : ∀ e ∈ edits, e.stop ≤ position ∨ position + bs.length ≤ e.start) :
    spliceFrom edits position bs = bs := by
  induction bs generalizing position with
  | nil => rfl
  | cons b rest ih =>
    have hbyte : ∀ e ∈ edits, ¬ e.Covers position := by
      intro e he hcovers
      have := h e he
      rw [List.length_cons] at this
      unfold Edit.Covers at hcovers
      omega
    have hrest : ∀ e ∈ edits, e.stop ≤ position + 1 ∨ position + 1 + rest.length ≤ e.start := by
      intro e he
      have := h e he
      rw [List.length_cons] at this
      omega
    rw [spliceFrom, spliceByte_of_not_covers hbyte, ih hrest, List.singleton_append]

/-- Of the bytes that an edit replaces, nothing stands for those after the first. -/
theorem spliceFrom_of_inside (he : e ∈ edits) (hothers : ∀ e' ∈ edits, e' = e ∨ e.Apart e')
    {bs : Bytes} (hstart : e.start < position) (hstop : position + bs.length ≤ e.stop) :
    spliceFrom edits position bs = [] := by
  induction bs generalizing position with
  | nil => rfl
  | cons b rest ih =>
    rw [List.length_cons] at hstop
    have hcovers : e.Covers position := ⟨Nat.le_of_lt hstart, by omega⟩
    rw [spliceFrom, spliceByte_of_covers he hcovers hothers, if_neg (Nat.ne_of_gt hstart),
      ih (by omega) (by omega), List.append_nil]

/-- The bytes that an edit replaces become the bytes of the edit. -/
theorem spliceFrom_of_replaced (he : e ∈ edits) (hothers : ∀ e' ∈ edits, e' = e ∨ e.Apart e')
    {bs : Bytes} (hne : bs ≠ []) (hstop : e.start + bs.length = e.stop) :
    spliceFrom edits e.start bs = e.bytes := by
  obtain ⟨b, rest, rfl⟩ := List.exists_cons_of_ne_nil hne
  rw [List.length_cons] at hstop
  have hcovers : e.Covers e.start := ⟨Nat.le_refl _, by omega⟩
  rw [spliceFrom, spliceByte_of_covers he hcovers hothers, if_pos rfl,
    spliceFrom_of_inside he hothers (by omega) (by omega), List.append_nil]

/-- A splice of pieces is made of the splices of the pieces, each at its position. -/
theorem spliceFrom_flatMap {α : Type} {piece : α → Bytes} {xs ys : List α}
    (hlen : ys.length = xs.length)
    (h : ∀ n x y, xs[n]? = some x → ys[n]? = some y →
      spliceFrom edits (position + ((xs.take n).flatMap piece).length) (piece x) = piece y) :
    spliceFrom edits position (xs.flatMap piece) = ys.flatMap piece := by
  induction xs generalizing position ys with
  | nil =>
    rw [List.eq_nil_of_length_eq_zero hlen]
    rfl
  | cons x xs ih =>
    obtain ⟨y, ys, rfl⟩ := List.exists_cons_of_length_eq_add_one hlen
    have hfirst : spliceFrom edits position (piece x) = piece y := h 0 x y rfl rfl
    have hrest : spliceFrom edits (position + (piece x).length) (xs.flatMap piece) =
        ys.flatMap piece := by
      refine ih (by simpa using hlen) fun n x' y' hx hy => ?_
      have := h (n + 1) x' y' (by simpa using hx) (by simpa using hy)
      rwa [List.take_succ_cons, List.flatMap_cons, List.length_append, ← Nat.add_assoc] at this
    rw [List.flatMap_cons, List.flatMap_cons, spliceFrom_append, hfirst, hrest]

theorem spliceFrom_cons_of_outside {bs : Bytes}
    (h : e.stop ≤ position ∨ position + bs.length ≤ e.start) :
    spliceFrom (e :: edits) position bs = spliceFrom edits position bs := by
  induction bs generalizing position with
  | nil => rfl
  | cons b rest ih =>
    rw [List.length_cons] at h
    have hnot : ¬ e.Covers position := by
      unfold Edit.Covers
      omega
    have hbyte : spliceByte (e :: edits) position b = spliceByte edits position b := by
      rw [spliceByte, List.find?_cons_of_neg (by simpa using hnot), spliceByte]
    rw [spliceFrom, spliceFrom, hbyte, ih (by omega)]

end SpliceFrom

/-! ## Stretches of byte strings -/

section Slice

variable {bs : Bytes}

theorem slice_append_append (front middle back : Bytes) :
    (front ++ (middle ++ back)).slice front.length (front.length + middle.length) = middle := by
  rw [slice, List.drop_left, Nat.add_sub_cancel_left, List.take_left]

/-- The bytes before, in and after the stretch from `start` to `stop`. -/
theorem take_append_slice_append_drop {start stop : Nat} (h : start ≤ stop) :
    bs.take start ++ (bs.slice start stop ++ bs.drop stop) = bs := by
  have hdrop : bs.drop stop = (bs.drop start).drop (stop - start) := by
    rw [List.drop_drop, Nat.add_sub_cancel' h]
  rw [slice, hdrop, List.take_append_drop, List.take_append_drop]

end Slice

/-! ## The length of a splice -/

section Length

variable {edits : List Edit} {e : Edit} {bs : Bytes}

/-- One more edit, apart from the others, adds its growth. -/
theorem length_splice_cons (hstart : e.start < e.stop) (hstop : e.stop ≤ bs.length)
    (hapart : ∀ e' ∈ edits, e.Apart e') :
    ((splice (e :: edits) bs).length : Int) = (splice edits bs).length + e.growth := by
  have hbefore : (bs.take e.start).length = e.start := by
    rw [List.length_take]
    omega
  have hin : (bs.slice e.start e.stop).length = e.stop - e.start := by
    rw [slice, List.length_take, List.length_drop]
    omega
  have hsplit : ∀ es, splice es bs = spliceFrom es 0 (bs.take e.start) ++
      (spliceFrom es e.start (bs.slice e.start e.stop) ++
        spliceFrom es e.stop (bs.drop e.stop)) := by
    intro es
    have h : spliceFrom es 0
        (bs.take e.start ++ (bs.slice e.start e.stop ++ bs.drop e.stop)) = _ :=
      spliceFrom_append _ _
    rw [take_append_slice_append_drop (Nat.le_of_lt hstart), Nat.zero_add, hbefore,
      spliceFrom_append, hin, Nat.add_sub_cancel' (Nat.le_of_lt hstart)] at h
    exact h
  -- Outside of the edit the two splices agree; inside, the other edits change nothing.
  have hreplaced : spliceFrom (e :: edits) e.start (bs.slice e.start e.stop) = e.bytes := by
    refine spliceFrom_of_replaced List.mem_cons_self ?_ ?_ (by omega)
    · exact List.forall_mem_cons.2 ⟨.inl rfl, fun e' he' => .inr (hapart e' he')⟩
    · rw [← List.length_pos_iff, hin]
      omega
  have hkept : spliceFrom edits e.start (bs.slice e.start e.stop) = bs.slice e.start e.stop := by
    refine spliceFrom_of_outside fun e' he' => ?_
    rcases hapart e' he' with h | h
    · right
      omega
    · exact .inl h
  have hlen := congrArg List.length (hsplit edits)
  have hlen' := congrArg List.length (hsplit (e :: edits))
  rw [hreplaced, spliceFrom_cons_of_outside (.inr (by omega)),
    spliceFrom_cons_of_outside (.inl (Nat.le_refl _))] at hlen'
  rw [hkept] at hlen
  simp only [List.length_append, hin] at hlen hlen'
  rw [Edit.growth]
  omega

/-- A splice makes a byte string longer by the growth of all edits. -/
theorem length_splice (hbounds : ∀ e ∈ edits, e.start < e.stop ∧ e.stop ≤ bs.length)
    (hapart : edits.Pairwise Edit.Apart) :
    ((splice edits bs).length : Int) = bs.length + (edits.map Edit.growth).sum := by
  induction edits with
  | nil =>
    have hnil : splice [] bs = bs := spliceFrom_of_outside (by simp)
    rw [hnil, List.map_nil, List.sum_nil, Int.add_zero]
  | cons e edits ih =>
    rw [List.forall_mem_cons] at hbounds
    rw [List.pairwise_cons] at hapart
    rw [length_splice_cons hbounds.1.1 hbounds.1.2 hapart.1, ih hbounds.2 hapart.2, List.map_cons,
      List.sum_cons]
    omega

end Length

end Bytes
end ClassLiterals
