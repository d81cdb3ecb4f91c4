import ClassLiterals.Proofs.Class.Prefixes

/-!
# The index that goes along while a pool is read

The reader of a pool carries an index of sixteen bits from one constant to the next. It adds one to
the index when it looks for a second slot, and the number of the constant's slots when it goes on.
This file shows that none of these sums is ever too large for sixteen bits, not even in a pool with
as many slots as the format allows, and that the index always is what it should be: one more than
the number of slots filled before.

* **Steps.**  `Filling` is where the reader stands between two constants, and `Filling.step` takes
  it past one constant in the arithmetic of sixteen bits. These are the steps of the reader
  (`outcome_of_lt`, `read_cases`).
* **Places.**  The index is right at every place that is reached (`Reached.toNat_index`), and the
  places that are reached are those behind constants that leave room for another slot
  (`Reached.exists_constants`, `exists_reached`).
* **Errors.**  So the index in an error tells how many slots the constants before it take
  (`read_eq_unknownTag_iff`, `read_eq_noSecondSlot_iff`).

Main result: `countsSlots`.
-/

namespace ClassLiterals

open Decoder

/-! ## Constants and their slots -/

namespace Constant

/-- The slots that a constant takes: its own and, when it is wide, its second one. -/
def ownSlots (k : Constant) : List Constant := if k.isWide then [k, .unusable] else [k]

/-- The number of slots that constants take, two for each wide one. -/
def slotTotal (ks : List Constant) : Nat := (ks.map slotCount).sum

/-- A constant that stands in the bytes of a pool. -/
def Writable (k : Constant) : Prop := k ≠ .unusable ∧ k.WellFormed

theorem length_ownSlots (k : Constant) : k.ownSlots.length = k.slotCount := by
  by_cases h : k.isWide = true <;> simp [ownSlots, slotCount, h]

theorem slotCount_pos (k : Constant) : 0 < k.slotCount := by
  by_cases h : k.isWide = true <;> simp [slotCount, h]

@[simp] theorem slotTotal_concat (ks : List Constant) (k : Constant) :
    slotTotal (ks ++ [k]) = slotTotal ks + k.slotCount := by
  simp [slotTotal]

@[simp] theorem slotTotal_replicate (n : Nat) (k : Constant) :
    slotTotal (List.replicate n k) = n * k.slotCount := by
  rw [slotTotal, List.map_replicate, List.sum_replicate_nat]

theorem length_flatMap_ownSlots (ks : List Constant) :
    (ks.flatMap ownSlots).length = slotTotal ks := by
  induction ks with
  | nil => rfl
  | cons k ks ih => rw [List.flatMap_cons, List.length_append, ih, length_ownSlots]; rfl

end Constant

/-! ## Errors that name an index -/

/-- The error says which index of the pool it is about. -/
inductive FormatError.NamesIndex : FormatError → Prop where
  | unknownTag {tag : UInt8} {index : UInt16} : NamesIndex (.unknownTag tag index)
  | noSecondSlot {index : UInt16} : NamesIndex (.noSecondSlot index)

theorem FormatError.not_namesIndex_outOfBounds (offset requested remaining : Nat) :
    ¬ (FormatError.outOfBounds offset requested remaining).NamesIndex := nofun

namespace Constant

open FormatError (not_namesIndex_outOfBounds)

/-- The reader of constants names an index only for a tag that no kind of constant has. -/
theorem read_error_cases {index : UInt16} {c : Cursor} {e : FormatError}
    (h : Constant.read index c = .error e) (he : e.NamesIndex) :
    ∃ tag more, c.rest = tag :: more ∧ Kind.ofTag? tag = none ∧ e = .unknownTag tag index := by
  have hu1 : FailsWith u1 fun e => ¬ e.NamesIndex := failsWith_u1 not_namesIndex_outOfBounds
  obtain ⟨tag, c₁, htag, h⟩ := hu1.passed h (not_not_intro he)
  cases hkind : Kind.ofTag? tag with
  | some kind =>
    rw [hkind] at h
    have hpayload : FailsWith (readPayload kind) fun e => ¬ e.NamesIndex :=
      failsWith_readPayload not_namesIndex_outOfBounds kind
    exact absurd he (hpayload c₁ e h)
  | none =>
    rw [hkind] at h
    cases h
    obtain ⟨_, rfl, hrest, -⟩ := reads_u1.sound htag
    exact ⟨tag, c₁.rest, hrest, hkind, rfl⟩

theorem read_unknownTag {index : UInt16} {c : Cursor} {tag : UInt8} {more : Bytes}
    (hrest : c.rest = tag :: more) (htag : Kind.ofTag? tag = none) :
    Constant.read index c = .error (.unknownTag tag index) := by
  have hu1 : u1 c = .ok (tag, ⟨c.position + 1, more⟩) := by
    have := takes_u1 tag c.position more
    rwa [List.singleton_append, ← hrest] at this
  rw [Constant.read, bind_apply, hu1]
  simp only [htag, fail]

/-- A constant is read from its bytes. -/
theorem read_of_writable {k : Constant} (hk : k.Writable) (index : UInt16) {c : Cursor}
    {more : Bytes} (hrest : c.rest = k.encode ++ more) :
    Constant.read index c = .ok (k, ⟨c.position + k.encode.length, more⟩) := by
  have := (reads_read index).complete ⟨hk, rfl⟩ c.position more
  rwa [← hrest] at this

end Constant

namespace Pool

open Constant

/-! ## From one constant to the next -/

/-- Where the reader of a pool stands between two constants. -/
structure Filling where
  /-- The index of the next slot. -/
  index : UInt16
  /-- The slots that are filled. -/
  slots : Array Constant
  /-- The place of the next constant in the bytes. -/
  cursor : Cursor

namespace Filling

/-- Before the first constant. -/
def start (c : Cursor) : Filling := ⟨1, #[], c⟩

/-- Behind a constant that ends at `c`. -/
def after (s : Filling) (k : Constant) (c : Cursor) : Filling :=
  ⟨s.index + UInt16.ofNat k.slotCount, s.slots ++ k.ownSlots, c⟩

theorem toList_after (s : Filling) (k : Constant) (c : Cursor) :
    (s.after k c).slots.toList = s.slots.toList ++ k.ownSlots := by
  rw [after, Array.toList_appendList]

theorem size_after (s : Filling) (k : Constant) (c : Cursor) :
    (s.after k c).slots.size = s.slots.size + k.slotCount := by
  rw [← Array.length_toList, toList_after, List.length_append, Array.length_toList,
    length_ownSlots]

/-- Reads the next constant of a pool with the given count. A wide constant needs an index for its
second slot, too. -/
def step (count : UInt16) (s : Filling) : Except FormatError Filling :=
  match Constant.read s.index s.cursor with
  | .error e => .error e
  | .ok (k, c) =>
    if k.isWide = true ∧ count ≤ s.index + 1 then .error (.noSecondSlot s.index)
    else .ok (s.after k c)

/-- What the reader of slots gives when it goes on from here. -/
def outcome (count : UInt16) (s : Filling) : Except FormatError (Array Constant × Cursor) :=
  readSlots (count.toNat - s.index.toNat) s.index s.slots s.cursor

end Filling

variable {count index : UInt16} {c : Cursor} {s s' : Filling} {e : FormatError}

/-- The places where the reader of a pool with the given count stands when it starts at `c`. -/
inductive Reached (count : UInt16) (c : Cursor) : Filling → Prop where
  | start : Reached count c (.start c)
  | step {s s' : Filling} (hs : Reached count c s) (hlt : s.index < count)
      (hstep : s.step count = .ok s') : Reached count c s'

theorem step_eq_ok_iff : s.step count = .ok s' ↔
    ∃ k c', Constant.read s.index s.cursor = .ok (k, c') ∧
      (k.isWide = true → s.index + 1 < count) ∧ s' = s.after k c' := by
  rw [Filling.step]
  cases Constant.read s.index s.cursor with
  | error e => simp
  | ok r =>
    obtain ⟨k, c'⟩ := r
    by_cases hroom : k.isWide = true ∧ count ≤ s.index + 1
    · simp [hroom]
    · simp only [if_neg hroom, Except.ok.injEq, Prod.mk.injEq]
      rw [not_and, UInt16.not_le] at hroom
      constructor
      · rintro rfl
        exact ⟨k, c', ⟨rfl, rfl⟩, hroom, rfl⟩
      · rintro ⟨_, _, ⟨rfl, rfl⟩, -, rfl⟩
        rfl

theorem step_eq_error_iff : s.step count = .error e ↔
    Constant.read s.index s.cursor = .error e ∨
      ∃ k c', Constant.read s.index s.cursor = .ok (k, c') ∧ k.isWide = true ∧
        count ≤ s.index + 1 ∧ e = .noSecondSlot s.index := by
  rw [Filling.step]
  cases Constant.read s.index s.cursor with
  | error e' => simp
  | ok r =>
    obtain ⟨k, c'⟩ := r
    by_cases hroom : k.isWide = true ∧ count ≤ s.index + 1
    · simp only [if_pos hroom, Except.error.injEq, reduceCtorEq, false_or]
      constructor
      · rintro rfl
        exact ⟨k, c', rfl, hroom.1, hroom.2, rfl⟩
      · rintro ⟨_, _, -, -, -, rfl⟩
        rfl
    · simp only [if_neg hroom, reduceCtorEq, false_or, false_iff]
      rintro ⟨_, _, heq, hwide, hle, -⟩
      cases heq
      exact hroom ⟨hwide, hle⟩

/-! ## Sums of sixteen bits -/

theorem toNat_add_of_le {i j : UInt16} (h : i.toNat + j.toNat ≤ 65535) :
    (i + j).toNat = i.toNat + j.toNat := by
  rw [UInt16.toNat_add]
  omega

/-- The index after one below the count is no larger than the count. -/
theorem toNat_index_add_one (h : s.index < count) : (s.index + 1).toNat = s.index.toNat + 1 := by
  have hlt : s.index.toNat < count.toNat := UInt16.lt_iff_toNat_lt.1 h
  have hcount : count.toNat < 65536 := count.toNat_lt
  refine toNat_add_of_le ?_
  rw [UInt16.toNat_one]
  omega

/-- There is room for all slots of a constant, a second one included. -/
theorem index_add_slotCount_le {k : Constant} (h : s.index < count)
    (hroom : k.isWide = true → s.index + 1 < count) :
    s.index.toNat + k.slotCount ≤ count.toNat := by
  have hlt : s.index.toNat < count.toNat := UInt16.lt_iff_toNat_lt.1 h
  by_cases hwide : k.isWide = true
  · have hsecond := UInt16.lt_iff_toNat_lt.1 (hroom hwide)
    rw [toNat_index_add_one h] at hsecond
    rw [slotCount, if_pos hwide]
    omega
  · rw [slotCount, if_neg hwide]
    omega

theorem toNat_index_after {k : Constant} (c' : Cursor) (h : s.index < count)
    (hroom : k.isWide = true → s.index + 1 < count) :
    (s.after k c').index.toNat = s.index.toNat + k.slotCount := by
  have hle := index_add_slotCount_le h hroom
  have hcount : count.toNat < 65536 := count.toNat_lt
  have hk : (UInt16.ofNat k.slotCount).toNat = k.slotCount :=
    UInt16.toNat_ofNat_of_lt' (by change _ < 65536; omega)
  rw [Filling.after, toNat_add_of_le (by omega), hk]

/-! ## The reader takes these steps -/

theorem outcome_of_le (h : count ≤ s.index) : s.outcome count = .ok (s.slots, s.cursor) := by
  have hleft : count.toNat - s.index.toNat = 0 := Nat.sub_eq_zero_of_le (UInt16.le_iff_toNat_le.1 h)
  rw [Filling.outcome, hleft, readSlots_zero]
  rfl

/-- The reader of slots takes one step and goes on from there. -/
theorem outcome_of_lt (h : s.index < count) :
    s.outcome count = match s.step count with
      | .ok s' => s'.outcome count
      | .error e => .error e := by
  have hlt : s.index.toNat < count.toNat := UInt16.lt_iff_toNat_lt.1 h
  obtain ⟨left, hleft⟩ : ∃ left, count.toNat - s.index.toNat = left + 1 :=
    ⟨count.toNat - s.index.toNat - 1, by omega⟩
  have hsecond := toNat_index_add_one h
  rw [Filling.outcome, hleft, readSlots_succ, bind_apply, Filling.step]
  cases Constant.read s.index s.cursor with
  | error e => rfl
  | ok r =>
    obtain ⟨k, c'⟩ := r
    by_cases hwide : k.isWide = true
    · cases left with
      | zero =>
        -- The slot of the constant is the last one.
        have hle : count ≤ s.index + 1 := by
          rw [UInt16.le_iff_toNat_le, hsecond]
          omega
        simp [hwide, hle, fail]
      | succ left =>
        have hroom : s.index + 1 < count := by
          rw [UInt16.lt_iff_toNat_lt, hsecond]
          omega
        have hafter := toNat_index_after c' h fun _ : k.isWide = true => hroom
        have hrest : count.toNat - (s.after k c').index.toNat = left := by
          rw [hafter, slotCount, if_pos hwide]
          omega
        have hle : ¬ count ≤ s.index + 1 := UInt16.not_le.2 hroom
        simp only [hwide, if_true, hle, and_false, if_false, Filling.outcome, hrest]
        simp [Filling.after, slotCount, ownSlots, hwide]
    · have hafter := toNat_index_after c' h fun hk : k.isWide = true => absurd hk hwide
      have hrest : count.toNat - (s.after k c').index.toNat = left := by
        rw [hafter, slotCount, if_neg hwide]
        omega
      simp only [hwide, Bool.false_eq_true, if_false, false_and, Filling.outcome, hrest]
      simp [Filling.after, slotCount, ownSlots, hwide]

/-! ## The places that are reached -/

/-- **The index is right.**  At every place it is one more than the number of slots filled. -/
theorem Reached.toNat_index (h : Reached count c s) : s.index.toNat = s.slots.size + 1 := by
  induction h with
  | start => rfl
  | step hs hlt hstep ih =>
    obtain ⟨k, c', -, hroom, rfl⟩ := step_eq_ok_iff.1 hstep
    rw [toNat_index_after c' hlt hroom, ih, Filling.size_after, Nat.add_right_comm]

theorem Reached.index_le (h : Reached count c s) (hcount : count ≠ 0) : s.index ≤ count := by
  induction h with
  | start =>
    have hpos : count.toNat ≠ 0 := fun h => hcount (UInt16.toNat_inj.1 h)
    rw [UInt16.le_iff_toNat_le]
    exact Nat.pos_of_ne_zero hpos
  | step hs hlt hstep ih =>
    obtain ⟨k, c', -, hroom, rfl⟩ := step_eq_ok_iff.1 hstep
    rw [UInt16.le_iff_toNat_le, toNat_index_after c' hlt hroom]
    exact index_add_slotCount_le hlt hroom

/-- Going on from a place that is reached gives what the whole run gives. -/
theorem Reached.outcome_eq (h : Reached count c s) :
    s.outcome count = (Filling.start c).outcome count := by
  induction h with
  | start => rfl
  | step hs hlt hstep ih => rw [← ih, outcome_of_lt hlt, hstep]

/-- The reader comes to a place where it stops: the pool is full, or the next step fails. -/
theorem Reached.exists_stop (h : Reached count c s) :
    ∃ s', Reached count c s' ∧
      (count ≤ s'.index ∨ ∃ e, s'.index < count ∧ s'.step count = .error e) := by
  induction hleft : count.toNat - s.index.toNat using Nat.strong_induction_on generalizing s with
  | _ left ih =>
    by_cases hlt : s.index < count
    · cases hstep : s.step count with
      | error e => exact ⟨s, h, .inr ⟨e, hlt, hstep⟩⟩
      | ok s' =>
        -- Every step takes a slot, so fewer are left.
        obtain ⟨k, c', -, hroom, rfl⟩ := step_eq_ok_iff.1 hstep
        have hafter := toNat_index_after c' hlt hroom
        have hpos := k.slotCount_pos
        have hlt' := UInt16.lt_iff_toNat_lt.1 hlt
        exact ih _ (by omega) (h.step hlt hstep) rfl
    · exact ⟨s, h, .inl (UInt16.not_lt.1 hlt)⟩

/-- The constants before a place that is reached fill its slots. -/
theorem Reached.exists_constants (h : Reached count c s) :
    ∃ ks : List Constant, (∀ k ∈ ks, k.Writable) ∧
      c.rest = ks.flatMap Constant.encode ++ s.cursor.rest ∧
      s.slots.toList = ks.flatMap ownSlots := by
  induction h with
  | start => exact ⟨[], by simp, rfl, rfl⟩
  | @step s s' hs hlt hstep ih =>
    obtain ⟨ks, hks, hbytes, hslots⟩ := ih
    obtain ⟨k, c', hread, -, rfl⟩ := step_eq_ok_iff.1 hstep
    obtain ⟨used, ⟨hk, rfl⟩, hrest, -⟩ := (Constant.reads_read s.index).sound hread
    refine ⟨ks ++ [k], ?_, ?_, ?_⟩
    · intro k' hk'
      rcases List.mem_append.1 hk' with h | h
      · exact hks k' h
      · rw [List.mem_singleton.1 h]
        exact hk
    · rw [hbytes, hrest, List.flatMap_append, List.append_assoc, List.flatMap_singleton]
      rfl
    · rw [Filling.toList_after, hslots, List.flatMap_append, List.flatMap_singleton]

theorem Reached.exists_slotTotal (h : Reached count c s) :
    ∃ ks : List Constant, (∀ k ∈ ks, k.Writable) ∧
      c.rest = ks.flatMap Constant.encode ++ s.cursor.rest ∧
      s.index.toNat = slotTotal ks + 1 := by
  obtain ⟨ks, hks, hbytes, hslots⟩ := h.exists_constants
  refine ⟨ks, hks, hbytes, ?_⟩
  rw [h.toNat_index, ← Array.length_toList, hslots, length_flatMap_ownSlots]

/-- Behind constants that leave room for another slot there is a place that is reached. -/
theorem exists_reached {ks : List Constant} {rest : Bytes} (hks : ∀ k ∈ ks, k.Writable)
    (hbytes : c.rest = ks.flatMap Constant.encode ++ rest)
    (hroom : slotTotal ks + 1 ≤ count.toNat) :
    ∃ s, Reached count c s ∧ s.index.toNat = slotTotal ks + 1 ∧ s.cursor.rest = rest := by
  induction ks using List.reverseRecOn generalizing rest with
  | nil => exact ⟨_, .start, rfl, hbytes⟩
  | append_singleton ks k ih =>
    rw [List.flatMap_append, List.append_assoc, List.flatMap_singleton] at hbytes
    rw [slotTotal_concat] at hroom
    have hpos := k.slotCount_pos
    obtain ⟨s, hs, hindex, hrest⟩ :=
      ih (fun k' hk' => hks k' (List.mem_append_left _ hk')) hbytes (by omega)
    have hread := read_of_writable (hks k (by simp)) s.index hrest
    have hlt : s.index < count := by
      rw [UInt16.lt_iff_toNat_lt]
      omega
    have hsecond : k.isWide = true → s.index + 1 < count := by
      intro hwide
      rw [slotCount, if_pos hwide] at hroom
      rw [UInt16.lt_iff_toNat_lt, toNat_index_add_one hlt]
      omega
    refine ⟨_, hs.step hlt (step_eq_ok_iff.2 ⟨k, _, hread, hsecond, rfl⟩), ?_, rfl⟩
    rw [toNat_index_after _ hlt hsecond, hindex, slotTotal_concat]
    omega

/-! ## What the reader of pools gives -/

theorem read_of_u2 {c₁ : Cursor} (hu2 : u2 c = .ok (count, c₁)) (hcount : count ≠ 0) :
    Pool.read c = match (Filling.start c₁).outcome count with
      | .ok (slots, c') => .ok (⟨slots⟩, c')
      | .error e => .error e := by
  rw [Pool.read, bind_apply, hu2]
  simp only [if_neg hcount]
  rw [bind_apply]
  have hrun : (Filling.start c₁).outcome count = readSlots (count.toNat - 1) 1 #[] c₁ := rfl
  rw [hrun]
  cases readSlots (count.toNat - 1) 1 #[] c₁ <;> rfl

/-- The reader of pools goes from place to place, and what it gives is told by the last of them. -/
theorem read_cases {c₁ : Cursor} (hu2 : u2 c = .ok (count, c₁)) (hcount : count ≠ 0) :
    ∃ s, Reached count c₁ s ∧
      ((s.index = count ∧ Pool.read c = .ok (⟨s.slots⟩, s.cursor)) ∨
        ∃ e, s.index < count ∧ s.step count = .error e ∧ Pool.read c = .error e) := by
  have hstart : Reached count c₁ (.start c₁) := .start
  obtain ⟨s, hs, hfull | ⟨e, hlt, hstep⟩⟩ := hstart.exists_stop
  · refine ⟨s, hs, .inl ⟨UInt16.le_antisymm (hs.index_le hcount) hfull, ?_⟩⟩
    rw [read_of_u2 hu2 hcount, ← hs.outcome_eq, outcome_of_le hfull]
  · refine ⟨s, hs, .inr ⟨e, hlt, hstep, ?_⟩⟩
    rw [read_of_u2 hu2 hcount, ← hs.outcome_eq, outcome_of_lt hlt, hstep]

theorem read_of_step_error {c₁ : Cursor} (hu2 : u2 c = .ok (count, c₁)) (hs : Reached count c₁ s)
    (hlt : s.index < count) (hstep : s.step count = .error e) : Pool.read c = .error e := by
  have hcount : count ≠ 0 := by
    rintro rfl
    exact absurd (UInt16.lt_iff_toNat_lt.1 hlt) (Nat.not_lt_zero _)
  rw [read_of_u2 hu2 hcount, ← hs.outcome_eq, outcome_of_lt hlt, hstep]

/-- The reader of pools names an index only where a constant is refused. -/
theorem read_error_cases (h : Pool.read c = .error e) (he : e.NamesIndex) :
    ∃ count c₁ s, u2 c = .ok (count, c₁) ∧ Reached count c₁ s ∧ s.index < count ∧
      s.step count = .error e := by
  have hfails : FailsWith u2 fun e => ¬ e.NamesIndex :=
    failsWith_u2 FormatError.not_namesIndex_outOfBounds
  obtain ⟨count, c₁, hu2, hcase⟩ := hfails.passed h (not_not_intro he)
  by_cases hcount : count = 0
  · rw [if_pos hcount] at hcase
    cases hcase
    cases he
  · obtain ⟨s, hs, ⟨-, hok⟩ | ⟨e', hlt, hstep, herr⟩⟩ := read_cases hu2 hcount
    · rw [hok] at h
      cases h
    · rw [herr] at h
      cases h
      exact ⟨count, c₁, s, hu2, hs, hlt, hstep⟩

/-! ## The indices in errors -/

/-- After a count and constants that fill the slots below `index` stands a tag that no kind of
constant has, although the count asks for a constant there. -/
def HasBadTag (bs : Bytes) (tag : UInt8) (index : UInt16) : Prop :=
  ∃ (count : UInt16) (ks : List Constant) (more : Bytes),
    bs = Bytes.ofUInt16 count ++ (ks.flatMap Constant.encode ++ tag :: more) ∧
    (∀ k ∈ ks, k.Writable) ∧ Kind.ofTag? tag = none ∧
    index.toNat = slotTotal ks + 1 ∧ index < count

/-- After a count and constants that fill the slots below `index` stands a wide constant, and its
first slot is the last one that the count asks for. -/
def LacksSecondSlot (bs : Bytes) (index : UInt16) : Prop :=
  ∃ (count : UInt16) (ks : List Constant) (k : Constant) (more : Bytes),
    bs = Bytes.ofUInt16 count ++ (ks.flatMap Constant.encode ++ (k.encode ++ more)) ∧
    (∀ k' ∈ ks, k'.Writable) ∧ k.Writable ∧ k.isWide = true ∧
    index.toNat = slotTotal ks + 1 ∧ index.toNat + 1 = count.toNat

theorem exists_u2 {rest : Bytes} (h : c.rest = Bytes.ofUInt16 count ++ rest) :
    ∃ c₁, u2 c = .ok (count, c₁) ∧ c₁.rest = rest := by
  have hu2 := takes_u2 count c.position rest
  rw [← h] at hu2
  exact ⟨_, hu2, rfl⟩

/-- Behind a count and constants the reader stands at the slot after those that they fill. -/
theorem exists_reached_at {ks : List Constant} {more : Bytes}
    (hbytes : c.rest = Bytes.ofUInt16 count ++ (ks.flatMap Constant.encode ++ more))
    (hks : ∀ k ∈ ks, k.Writable) (hindex : index.toNat = slotTotal ks + 1) (hlt : index < count) :
    ∃ c₁ s, u2 c = .ok (count, c₁) ∧ Reached count c₁ s ∧ s.index = index ∧
      s.cursor.rest = more := by
  obtain ⟨c₁, hu2, hrest⟩ := exists_u2 hbytes
  have hroom : slotTotal ks + 1 ≤ count.toNat := by
    rw [← hindex]
    exact Nat.le_of_lt (UInt16.lt_iff_toNat_lt.1 hlt)
  obtain ⟨s, hs, hs', hmore⟩ := exists_reached hks hrest hroom
  exact ⟨c₁, s, hu2, hs, UInt16.toNat_inj.1 (hs'.trans hindex.symm), hmore⟩

theorem read_eq_unknownTag_iff {tag : UInt8} :
    Pool.read c = .error (.unknownTag tag index) ↔ HasBadTag c.rest tag index := by
  constructor
  · intro h
    obtain ⟨count, c₁, s, hu2, hs, hlt, hstep⟩ := read_error_cases h .unknownTag
    obtain ⟨ks, hks, hbytes, hindex⟩ := hs.exists_slotTotal
    obtain ⟨_, rfl, hrest, -⟩ := reads_u2.sound hu2
    rcases step_eq_error_iff.1 hstep with hread | ⟨_, _, -, -, -, heq⟩
    · obtain ⟨_, more, htag, hkind, heq⟩ := Constant.read_error_cases hread .unknownTag
      cases heq
      exact ⟨count, ks, more, by rw [hrest, hbytes, htag], hks, hkind, hindex, hlt⟩
    · cases heq
  · rintro ⟨count, ks, more, hbytes, hks, hkind, hindex, hlt⟩
    obtain ⟨c₁, s, hu2, hs, rfl, hmore⟩ := exists_reached_at hbytes hks hindex hlt
    exact read_of_step_error hu2 hs hlt (step_eq_error_iff.2 (.inl (read_unknownTag hmore hkind)))

theorem read_eq_noSecondSlot_iff :
    Pool.read c = .error (.noSecondSlot index) ↔ LacksSecondSlot c.rest index := by
  constructor
  · intro h
    obtain ⟨count, c₁, s, hu2, hs, hlt, hstep⟩ := read_error_cases h .noSecondSlot
    obtain ⟨ks, hks, hbytes, hindex⟩ := hs.exists_slotTotal
    obtain ⟨_, rfl, hrest, -⟩ := reads_u2.sound hu2
    rcases step_eq_error_iff.1 hstep with hread | ⟨k, c', hread, hwide, hle, heq⟩
    · obtain ⟨_, _, -, -, heq⟩ := Constant.read_error_cases hread .noSecondSlot
      cases heq
    · cases heq
      obtain ⟨_, ⟨hk, rfl⟩, hk', -⟩ := (Constant.reads_read s.index).sound hread
      have hlt' := UInt16.lt_iff_toNat_lt.1 hlt
      rw [UInt16.le_iff_toNat_le, toNat_index_add_one hlt] at hle
      exact ⟨count, ks, k, c'.rest, by rw [hrest, hbytes, hk'], hks, hk, hwide, hindex, by omega⟩
  · rintro ⟨count, ks, k, more, hbytes, hks, hk, hwide, hindex, hlast⟩
    have hlt : index < count := by
      rw [UInt16.lt_iff_toNat_lt]
      omega
    obtain ⟨c₁, s, hu2, hs, rfl, hmore⟩ := exists_reached_at hbytes hks hindex hlt
    have hle : count ≤ s.index + 1 := by
      rw [UInt16.le_iff_toNat_le, toNat_index_add_one hlt]
      omega
    exact read_of_step_error hu2 hs hlt
      (step_eq_error_iff.2 (.inr ⟨k, _, read_of_writable hk s.index hmore, hwide, hle, rfl⟩))

/-! ## How pools are counted -/

/-- How the reader of pools counts slots when it reads at `c`. All sums of indices are sums of
sixteen bits. -/
structure CountsSlots (c : Cursor) : Prop where
  /-- The reader goes from place to place, until the pool is full or a constant is refused. -/
  run (count : UInt16) (c₁ : Cursor) (hu2 : u2 c = .ok (count, c₁)) (hcount : count ≠ 0) :
    ∃ s, Reached count c₁ s ∧
      ((s.index = count ∧ Pool.read c = .ok (⟨s.slots⟩, s.cursor)) ∨
        ∃ e, s.index < count ∧ s.step count = .error e ∧ Pool.read c = .error e)
  /-- At every place the index is one more than the number of slots filled. -/
  index_eq (count : UInt16) (c₁ : Cursor) (s : Filling) (hs : Reached count c₁ s) :
    s.index.toNat = s.slots.size + 1
  /-- The index of a second slot is not too large to be compared with the count. -/
  second_fits (count : UInt16) (c₁ : Cursor) (s : Filling) (hs : Reached count c₁ s)
    (hlt : s.index < count) : s.index.toNat + 1 ≤ 65535
  /-- The index is not too large after the slots of a constant that was accepted. -/
  next_fits (count : UInt16) (c₁ : Cursor) (s : Filling) (hs : Reached count c₁ s)
    (hlt : s.index < count) (k : Constant) (c' : Cursor)
    (hread : Constant.read s.index s.cursor = .ok (k, c'))
    (hstep : s.step count = .ok (s.after k c')) : s.index.toNat + k.slotCount ≤ 65535
  /-- A pool that was read has one slot less than its bytes state, and so many it states itself. -/
  filled (p : Pool) (c' : Cursor) (h : Pool.read c = .ok (p, c')) :
    ∃ count c₁, u2 c = .ok (count, c₁) ∧ p.slots.size + 1 = count.toNat ∧ p.count = count
  /-- An unknown tag is reported with the index of the slot after those filled. -/
  unknownTag_iff (tag : UInt8) (index : UInt16) :
    Pool.read c = .error (.unknownTag tag index) ↔ HasBadTag c.rest tag index
  /-- So is a wide constant without a second slot. -/
  noSecondSlot_iff (index : UInt16) :
    Pool.read c = .error (.noSecondSlot index) ↔ LacksSecondSlot c.rest index

theorem next_fits {k : Constant} {c' : Cursor} (hlt : s.index < count)
    (hread : Constant.read s.index s.cursor = .ok (k, c'))
    (hstep : s.step count = .ok (s.after k c')) : s.index.toNat + k.slotCount ≤ 65535 := by
  obtain ⟨k', c'', hread', hroom, -⟩ := step_eq_ok_iff.1 hstep
  rw [hread] at hread'
  cases hread'
  exact (index_add_slotCount_le hlt hroom).trans (Nat.le_of_lt_succ count.toNat_lt)

theorem count_of_read {p : Pool} {c' : Cursor} (h : Pool.read c = .ok (p, c')) :
    ∃ count c₁, u2 c = .ok (count, c₁) ∧ p.slots.size + 1 = count.toNat ∧ p.count = count := by
  obtain ⟨_, ⟨hp, rfl⟩, hrest, -⟩ := reads_read.sound h
  rw [encode, List.append_assoc] at hrest
  obtain ⟨c₁, hu2, -⟩ := exists_u2 hrest
  exact ⟨p.count, c₁, hu2, (toNat_count hp.size_le).symm, rfl⟩

theorem countsSlots (c : Cursor) : CountsSlots c where
  run _ _ hu2 hcount := read_cases hu2 hcount
  index_eq _ _ _ hs := hs.toNat_index
  second_fits count _ _ _ hlt := by
    have hcount := count.toNat_lt
    have hlt' := UInt16.lt_iff_toNat_lt.1 hlt
    omega
  next_fits _ _ _ _ hlt _ _ hread hstep := next_fits hlt hread hstep
  filled _ _ h := count_of_read h
  unknownTag_iff _ _ := read_eq_unknownTag_iff
  noSecondSlot_iff _ := read_eq_noSecondSlot_iff

end Pool
end ClassLiterals
