import ClassLiterals.Proofs.Pool.Codec
import ClassLiterals.Proofs.Text.InverseLaw

/-!
# Changing texts of a pool

A new text for a text entry changes the slot of that entry and no other one, and keeps a well-formed
pool well-formed: the entry has the bytes that the text is encoded as, so by the inverse law of
modified UTF-8 they encode the text.
-/

namespace ClassLiterals

/-! ## Entries from texts -/

namespace Utf8

/-- The entry of a text, whether it fits or not. -/
def encoded (text : String) : Utf8 := ⟨ModifiedUtf8.encode text, text⟩

/-- Whether the bytes of a text fit into an entry. -/
def Fits (text : String) : Prop := (ModifiedUtf8.encode text).length ≤ maxSize

instance (text : String) : Decidable (Fits text) := inferInstanceAs (Decidable (_ ≤ _))

theorem wellFormed_encoded {text : String} (h : Fits text) : (encoded text).WellFormed :=
  ⟨h, (ModifiedUtf8.decode_encode text).symm⟩

theorem ofText_of_fits {text : String} (h : Fits text) : ofText text = .ok (encoded text) :=
  if_pos h

theorem ofText_of_not_fits {text : String} (h : ¬ Fits text) :
    ofText text = .error (ModifiedUtf8.encode text).length :=
  if_neg h

end Utf8

/-! ## Look-ups -/

namespace Pool

variable {p : Pool} {i j : UInt16}

theorem get?_eq_some_iff {c : Constant} :
    p.get? i = some c ↔ p.slot? i = some c ∧ c ≠ .unusable := by
  rw [get?]
  cases hslot : p.slot? i with
  | none => simp
  | some k => cases k <;> simp <;> rintro rfl <;> simp

theorem slot?_eq_none_iff : p.slot? i = none ↔ i = 0 ∨ p.slots.size < i.toNat := by
  rw [slot?]
  by_cases hi : i = 0
  · simp [hi]
  · have hpos : i.toNat ≠ 0 := fun h => hi (UInt16.toNat_inj.1 h)
    simp only [hi, if_false, false_or, Array.getElem?_eq_none_iff]
    omega

/-- The slot at a place is the slot of the next index. -/
theorem slot?_ofNat_succ {n : Nat} (hn : n < maxSlots) :
    p.slot? (UInt16.ofNat (n + 1)) = p.slots[n]? := by
  have hlt : n < 65534 := hn
  have htoNat : (UInt16.ofNat (n + 1)).toNat = n + 1 :=
    UInt16.toNat_ofNat_of_lt' (by change n + 1 < 2 ^ 16; omega)
  have hne : UInt16.ofNat (n + 1) ≠ 0 := by
    intro h
    rw [h] at htoNat
    simp at htoNat
  rw [slot?, if_neg hne, htoNat, Nat.add_sub_cancel]

/-- Pools that the format can hold are known by the slots of their indices. -/
theorem ext_slot? {q : Pool} (hp : p.slots.size ≤ maxSlots) (hq : q.slots.size ≤ maxSlots)
    (h : ∀ i, p.slot? i = q.slot? i) : p = q := by
  have hslots : p.slots = q.slots := by
    refine Array.ext_getElem? fun n => ?_
    by_cases hn : n < maxSlots
    · rw [← slot?_ofNat_succ hn, ← slot?_ofNat_succ hn, h]
    · rw [Array.getElem?_eq_none (by omega), Array.getElem?_eq_none (by omega)]
  exact congrArg Pool.mk hslots

/-! Look-ups in pools that agree on a slot have the same outcome. -/

section Congruence

variable {q : Pool} (h : q.slot? i = p.slot? i)
include h

theorem get?_congr : q.get? i = p.get? i := by
  rw [get?, get?, h]

theorem text?_congr : q.text? i = p.text? i := by
  rw [text?, text?, get?_congr h]

theorem expectText_congr : q.expectText i = p.expectText i := by
  rw [expectText, expectText, get?_congr h]

end Congruence

theorem text?_eq_some_iff {text : String} :
    p.text? i = some text ↔ ∃ entry, p.get? i = some (.utf8 entry) ∧ entry.text = text := by
  rw [text?]
  cases p.get? i with
  | none => simp
  | some c => cases c <;> simp

/-- The entries are the constants that are found under their indices. -/
theorem mem_entries_iff {c : Constant} (hp : p.WellFormed) :
    (i, c) ∈ p.entries ↔ p.get? i = some c := by
  rw [entries, List.mem_filterMap, get?_eq_some_iff, slot?]
  constructor
  · rintro ⟨⟨old, n⟩, hmem, heq⟩
    obtain ⟨hle, hget⟩ := List.mk_mem_zipIdx_iff_le_and_getElem?_sub.1 hmem
    dsimp only at heq
    split_ifs at heq with hold
    cases heq
    have hsize : n - 1 < p.slots.size := by
      rw [← Array.length_toList]
      exact (List.getElem?_eq_some_iff.1 hget).1
    have hn : n ≤ maxSlots := by
      have := hp.size_le
      omega
    have htoNat : (UInt16.ofNat n).toNat = n := by
      rw [maxSlots] at hn
      exact UInt16.toNat_ofNat_of_lt' (by change n < 2 ^ 16; omega)
    have hzero : UInt16.ofNat n ≠ 0 := by
      intro h
      rw [h] at htoNat
      have : (0 : UInt16).toNat = 0 := rfl
      omega
    rw [if_neg hzero, htoNat, ← Array.getElem?_toList]
    exact ⟨hget, hold⟩
  · rintro ⟨hget, hc⟩
    split_ifs at hget with hi
    have hi' : i.toNat ≠ 0 := fun h => hi (UInt16.toNat_inj.1 h)
    refine ⟨(c, i.toNat), ?_, ?_⟩
    · rw [List.mk_mem_zipIdx_iff_le_and_getElem?_sub, Array.getElem?_toList]
      exact ⟨by omega, hget⟩
    · dsimp only
      rw [if_neg hc, UInt16.ofNat_toNat]

/-! ## One changed slot -/

@[simp] theorem size_setSlot (c : Constant) : (p.setSlot i c).slots.size = p.slots.size :=
  Array.size_setIfInBounds

theorem slot?_setSlot_self {old : Constant} (h : p.slot? i = some old) (c : Constant) :
    (p.setSlot i c).slot? i = some c := by
  rw [slot?] at h ⊢
  split_ifs at h ⊢ with hi
  rw [setSlot, Array.getElem?_setIfInBounds_self_of_lt (Array.getElem?_eq_some_iff.1 h).1]

theorem slot?_setSlot_of_ne (hi : i ≠ 0) (hij : j ≠ i) (c : Constant) :
    (p.setSlot i c).slot? j = p.slot? j := by
  rw [slot?, slot?]
  split_ifs with hj
  · rfl
  · have hi' : i.toNat ≠ 0 := fun h => hi (UInt16.toNat_inj.1 h)
    have hj' : j.toNat ≠ 0 := fun h => hj (UInt16.toNat_inj.1 h)
    have hij' : j.toNat ≠ i.toNat := fun h => hij (UInt16.toNat_inj.1 h)
    rw [setSlot, Array.getElem?_setIfInBounds_ne (by omega)]

theorem ne_zero_of_get? {c : Constant} (h : p.get? i = some c) : i ≠ 0 := by
  rintro rfl
  cases h

/-- A text entry in the place of another one leaves the layout as it is. -/
theorem layout_set {cs : List Constant} {n : Nat} {old new : Utf8} (h : Constant.Layout cs)
    (hn : cs[n]? = some (.utf8 old)) : Constant.Layout (cs.set n (.utf8 new)) := by
  induction h generalizing n with
  | nil => exact .nil
  | @narrow c rest hc hne hrest ih =>
    cases n with
    | zero => exact .narrow rfl (by simp) hrest
    | succ n => exact .narrow hc hne (ih (by simpa using hn))
  | @wide c rest hc hrest ih =>
    match n with
    | 0 =>
      cases hn
      cases hc
    | 1 => cases hn
    | n + 2 => exact .wide hc (ih (by simpa using hn))

theorem WellFormed.setSlot {old new : Utf8} (hp : p.WellFormed)
    (h : p.get? i = some (.utf8 old)) (hnew : new.WellFormed) :
    (p.setSlot i (.utf8 new)).WellFormed := by
  have hi := ne_zero_of_get? h
  have hslot : p.slots.toList[i.toNat - 1]? = some (.utf8 old) := by
    have := (get?_eq_some_iff.1 h).1
    rwa [slot?, if_neg hi, ← Array.getElem?_toList] at this
  have hlist : (p.setSlot i (.utf8 new)).slots.toList =
      p.slots.toList.set (i.toNat - 1) (.utf8 new) := Array.toList_setIfInBounds ..
  refine ⟨?_, ?_, ?_⟩
  · rw [size_setSlot]
    exact hp.size_le
  · rw [hlist]
    exact layout_set hp.layout hslot
  · intro c hc
    rw [hlist] at hc
    rcases List.mem_or_eq_of_mem_set hc with hc | rfl
    · exact hp.constants c hc
    · exact hnew

/-! ## Any number of changed texts -/

/-- A request is answered by the slot of its index and the size of its text. -/
theorem setText_eq (p : Pool) (i : UInt16) (text : String) : p.setText i text =
    match p.slot? i with
    | none | some .unusable => .error (.badIndex i)
    | some (.utf8 _) =>
      if Utf8.Fits text then .ok (p.setSlot i (.utf8 (.encoded text)))
      else .error (.textTooLong (ModifiedUtf8.encode text).length)
    | some c => .error (.unexpectedConstant .utf8 c) := by
  rw [setText, entryFor, get?]
  cases p.slot? i with
  | none => rfl
  | some c =>
    cases c with
    | utf8 entry =>
      by_cases hfits : Utf8.Fits text
      · simp only [Utf8.ofText_of_fits hfits, if_pos hfits]
      · simp only [Utf8.ofText_of_not_fits hfits, if_neg hfits]
    | _ => rfl

/-- The only pools that a change of text makes: the entry is a text entry, and the text fits. -/
theorem setText_eq_ok_iff {q : Pool} {text : String} : p.setText i text = .ok q ↔
    (∃ entry, p.slot? i = some (.utf8 entry)) ∧ Utf8.Fits text ∧
      q = p.setSlot i (.utf8 (.encoded text)) := by
  rw [setText_eq]
  cases p.slot? i with
  | none => simp
  | some c =>
    cases c with
    | utf8 entry => by_cases hfits : Utf8.Fits text <;> simp [hfits, eq_comm]
    | _ => simp

/-- The index is bad when there is no entry, and when it is that of a second slot. -/
theorem setText_eq_badIndex_iff {j : UInt16} {text : String} :
    p.setText i text = .error (.badIndex j) ↔
      j = i ∧ (p.slot? i = none ∨ p.slot? i = some .unusable) := by
  rw [setText_eq]
  cases p.slot? i with
  | none => simp [eq_comm]
  | some c =>
    cases c with
    | utf8 entry => by_cases hfits : Utf8.Fits text <;> simp [hfits]
    | _ => simp [eq_comm]

/-- The constant is not the expected one when it is of another kind. -/
theorem setText_eq_unexpected_iff {kind : Constant.Kind} {c : Constant} {text : String} :
    p.setText i text = .error (.unexpectedConstant kind c) ↔
      kind = .utf8 ∧ p.slot? i = some c ∧ c ≠ .unusable ∧ c.kind? ≠ some .utf8 := by
  rw [setText_eq]
  cases p.slot? i with
  | none => simp
  | some d =>
    cases d with
    | utf8 entry =>
      by_cases hfits : Utf8.Fits text
      all_goals
        simp only [hfits, if_true, if_false, reduceCtorEq, Except.error.injEq,
          Option.some.injEq, false_iff]
        rintro ⟨-, rfl, -, hkind⟩
        exact hkind rfl
    | unusable =>
      simp only [Except.error.injEq, reduceCtorEq, false_iff]
      rintro ⟨-, hc, hne, -⟩
      exact hne (Option.some.inj hc).symm
    | _ =>
      simp only [Except.error.injEq, PoolError.unexpectedConstant.injEq, Option.some.injEq]
      constructor
      · rintro ⟨rfl, rfl⟩
        simp [Constant.kind?]
      · rintro ⟨rfl, rfl, -⟩
        simp

theorem setText_eq_tooLong_iff {n : Nat} {text : String} :
    p.setText i text = .error (.textTooLong n) ↔
      n = (ModifiedUtf8.encode text).length ∧ ¬ Utf8.Fits text ∧
        ∃ entry, p.slot? i = some (.utf8 entry) := by
  rw [setText_eq]
  cases p.slot? i with
  | none => simp
  | some c =>
    cases c with
    | utf8 entry => by_cases hfits : Utf8.Fits text <;> simp [hfits, eq_comm]
    | _ => simp

theorem WellFormed.setText {q : Pool} {text : String} (hp : p.WellFormed)
    (h : p.setText i text = .ok q) : q.WellFormed := by
  obtain ⟨⟨old, hold⟩, hfits, rfl⟩ := setText_eq_ok_iff.1 h
  have hget : p.get? i = some (.utf8 old) := get?_eq_some_iff.2 ⟨hold, by simp⟩
  exact hp.setSlot hget (Utf8.wellFormed_encoded hfits)

/-- The pool after a request for a new text. A request that fails leaves it as it is. -/
def request (p : Pool) (edit : UInt16 × String) : Pool :=
  match p.setText edit.1 edit.2 with
  | .ok q => q
  | .error _ => p

/-- The pool after requests for new texts, one after the other. -/
def requests (p : Pool) (edits : List (UInt16 × String)) : Pool := edits.foldl request p

/-- One request keeps a pool well-formed, whether it fails or not. -/
theorem WellFormed.request (hp : p.WellFormed) (edit : UInt16 × String) :
    (p.request edit).WellFormed := by
  unfold Pool.request
  cases h : p.setText edit.1 edit.2 with
  | ok q => exact hp.setText h
  | error e => exact hp

theorem WellFormed.requests (hp : p.WellFormed) (edits : List (UInt16 × String)) :
    (p.requests edits).WellFormed := by
  induction edits generalizing p with
  | nil => exact hp
  | cons edit edits ih => exact ih (hp.request edit)

end Pool
end ClassLiterals
