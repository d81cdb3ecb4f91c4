import ClassLiterals.Pool.Codec
import ClassLiterals.Proofs.Bytes.Reading

/-!
# Reading and writing constant pools

A well-formed pool is one that the class file format can hold: its slots can be counted in sixteen
bits, every wide constant is followed by the unusable slot that belongs to it, no other slot is
unusable, and every text entry fits and has the text that its bytes encode. The reader of pools
reads the well-formed pools, each from the bytes that it is written as, and nothing else.
-/

namespace ClassLiterals

open Decoder

/-! ## Well-formed constants and pools -/

/-- The bytes of the entry fit, and its text is what they encode. -/
structure Utf8.WellFormed (entry : Utf8) : Prop where
  size_le : entry.bytes.length ≤ maxSize
  text_eq : entry.text = ModifiedUtf8.decode entry.bytes

/-- Only text entries can be ill-formed. -/
def Constant.WellFormed : Constant → Prop
  | .utf8 entry => entry.WellFormed
  | _ => True

/-- Slots in which the second slot of every wide constant, and no other slot, is unusable. -/
inductive Constant.Layout : List Constant → Prop where
  | nil : Layout []
  | narrow {c : Constant} {rest : List Constant} (hc : c.isWide = false) (hne : c ≠ .unusable)
      (hrest : Layout rest) : Layout (c :: rest)
  | wide {c : Constant} {rest : List Constant} (hc : c.isWide = true) (hrest : Layout rest) :
      Layout (c :: .unusable :: rest)

namespace Pool

/-- The most slots that a pool can have: the count that it states is one more. -/
def maxSlots : Nat := 65534

/-- A pool that the class file format can hold. -/
structure WellFormed (p : Pool) : Prop where
  size_le : p.slots.size ≤ maxSlots
  layout : Constant.Layout p.slots.toList
  constants : ∀ c ∈ p.slots.toList, c.WellFormed

end Pool

/-! ## Constants -/

namespace Constant

theorem Kind.ofTag?_eq_some_iff {tag : UInt8} {kind : Kind} :
    Kind.ofTag? tag = some kind ↔ tag = kind.tag := by
  constructor
  · intro h
    unfold Kind.ofTag? at h
    split at h <;> cases h <;> exact UInt8.toNat_inj.1 ‹tag.toNat = _›
  · rintro rfl
    cases kind <;> rfl

theorem kind?_eq_none_iff {c : Constant} : c.kind? = none ↔ c = .unusable := by
  cases c <;> simp [kind?]

/-- A constant is written as the tag of its kind and a payload. -/
theorem encode_eq_tag_cons {c : Constant} {kind : Kind} (h : c.kind? = some kind) :
    ∃ payload, c.encode = kind.tag :: payload := by
  cases c <;> cases h <;> exact ⟨_, rfl⟩

/-- The format of what follows the tag of a constant of the given kind. -/
def PayloadFormat (kind : Kind) : Format Constant := fun c bs =>
  c.kind? = some kind ∧ c.WellFormed ∧ c.encode = kind.tag :: bs

section Payloads

variable {ι : Type} {kind : Kind}

/-- A payload that is a single field. -/
theorem reads_field {d : Decoder ι} {encodeField : ι → Bytes} (make : ι → Constant)
    (hd : Reads d fun v bs => bs = encodeField v)
    (hmake : ∀ c : Constant, c.kind? = some kind ↔ ∃ v, c = make v)
    (hwf : ∀ v, (make v).WellFormed) (hencode : ∀ v, (make v).encode = kind.tag :: encodeField v) :
    Reads (d >>= fun v => pure (make v)) (PayloadFormat kind) := by
  refine (hd.bind fun v => Reads.pure (make v)).congr fun c bs => ?_
  constructor
  · rintro ⟨v, _, _, rfl, rfl, rfl, rfl⟩
    rw [List.append_nil]
    exact ⟨(hmake _).2 ⟨v, rfl⟩, hwf v, hencode v⟩
  · rintro ⟨hkind, -, henc⟩
    obtain ⟨v, rfl⟩ := (hmake c).1 hkind
    rw [hencode v] at henc
    exact ⟨v, _, [], (List.cons.inj henc).2.symm, (List.append_nil _).symm, rfl, rfl⟩

/-- A payload that is a pair of indices. -/
theorem reads_indexPair (make : UInt16 → UInt16 → Constant)
    (hmake : ∀ c : Constant, c.kind? = some kind ↔ ∃ i j, c = make i j)
    (hwf : ∀ i j, (make i j).WellFormed)
    (hencode : ∀ i j,
      (make i j).encode = kind.tag :: (Bytes.ofUInt16 i ++ Bytes.ofUInt16 j)) :
    Reads (u2 >>= fun i => u2 >>= fun j => pure (make i j)) (PayloadFormat kind) := by
  refine (reads_u2.bind fun i => reads_u2.bind fun j => Reads.pure (make i j)).congr
    fun c bs => ?_
  constructor
  · rintro ⟨i, _, _, rfl, rfl, j, _, _, rfl, rfl, rfl, rfl⟩
    rw [List.append_nil]
    exact ⟨(hmake _).2 ⟨i, j, rfl⟩, hwf i j, hencode i j⟩
  · rintro ⟨hkind, -, henc⟩
    obtain ⟨i, j, rfl⟩ := (hmake c).1 hkind
    rw [hencode i j] at henc
    exact ⟨i, _, _, rfl, (List.cons.inj henc).2.symm, j, _, [], rfl, (List.append_nil _).symm, rfl,
      rfl⟩

end Payloads

theorem reads_readWide :
    Reads readWide fun w bs => bs = Bytes.ofUInt32 w.high ++ Bytes.ofUInt32 w.low := by
  refine (reads_u4.bind fun high => reads_u4.bind fun low => Reads.pure (Wide.mk high low)).congr
    fun w bs => ?_
  constructor
  · rintro ⟨high, _, _, rfl, rfl, low, _, _, rfl, rfl, rfl, rfl⟩
    rw [List.append_nil]
  · rintro rfl
    exact ⟨w.high, _, _, rfl, rfl, w.low, _, [], rfl, (List.append_nil _).symm, rfl, rfl⟩

theorem reads_utf8Payload : Reads (readPayload .utf8) (PayloadFormat .utf8) := by
  refine (reads_u2.bind fun size => (reads_bytes size.toNat).bind fun payload =>
    Reads.pure (utf8 (.ofBytes payload))).congr fun c bs => ?_
  constructor
  · rintro ⟨size, _, _, rfl, rfl, _, payload, _, ⟨rfl, hlen⟩, rfl, rfl, rfl⟩
    have hsize : UInt16.ofNat payload.length = size := by
      rw [hlen, UInt16.ofNat_toNat]
    have hle : payload.length ≤ Utf8.maxSize := by
      rw [hlen]
      exact Nat.le_of_lt_succ size.toNat_lt
    refine ⟨rfl, ⟨hle, rfl⟩, ?_⟩
    rw [List.append_nil, encode, Utf8.ofBytes, hsize]
  · rintro ⟨hkind, hwf, henc⟩
    obtain ⟨entry, rfl⟩ : ∃ entry, c = .utf8 entry := by
      cases c <;> cases hkind
      exact ⟨_, rfl⟩
    have hsize : (UInt16.ofNat entry.bytes.length).toNat = entry.bytes.length :=
      UInt16.toNat_ofNat_of_lt' (Nat.lt_succ_of_le hwf.size_le)
    have hentry : entry = Utf8.ofBytes entry.bytes := by
      rw [Utf8.ofBytes, ← hwf.text_eq]
    exact ⟨_, _, _, rfl, (List.cons.inj henc).2.symm, entry.bytes, _, [], ⟨rfl, hsize.symm⟩,
      (List.append_nil _).symm, by rw [← hentry], rfl⟩

theorem reads_methodHandlePayload :
    Reads (readPayload .methodHandle) (PayloadFormat .methodHandle) := by
  refine (reads_u1.bind fun k => reads_u2.bind fun r => Reads.pure (methodHandle k r)).congr
    fun c bs => ?_
  constructor
  · rintro ⟨k, _, _, rfl, rfl, r, _, _, rfl, rfl, rfl, rfl⟩
    rw [List.append_nil]
    exact ⟨rfl, trivial, rfl⟩
  · rintro ⟨hkind, -, henc⟩
    obtain ⟨k, r, rfl⟩ : ∃ k r, c = .methodHandle k r := by
      cases c <;> cases hkind
      exact ⟨_, _, rfl⟩
    exact ⟨k, _, _, rfl, (List.cons.inj henc).2.symm, r, _, [], rfl, (List.append_nil _).symm, rfl,
      rfl⟩

/-- What follows the tag of a constant is read as the payload of its kind. -/
theorem reads_readPayload (kind : Kind) : Reads (readPayload kind) (PayloadFormat kind) := by
  cases kind with
  | utf8 => exact reads_utf8Payload
  | integer =>
    refine reads_field (fun v => .integer v.toInt32) reads_u4 (fun c => ?_) (fun _ => trivial)
      fun v => by rw [encode, UInt32.toUInt32_toInt32]
    cases c <;> simp [kind?]
    exact ⟨_, (Int32.toInt32_toUInt32 _).symm⟩
  | float =>
    exact reads_field .float reads_u4 (fun c => by cases c <;> simp [kind?]) (fun _ => trivial)
      fun _ => rfl
  | long =>
    exact reads_field .long reads_readWide (fun c => by cases c <;> simp [kind?])
      (fun _ => trivial) fun _ => rfl
  | double =>
    exact reads_field .double reads_readWide (fun c => by cases c <;> simp [kind?])
      (fun _ => trivial) fun _ => rfl
  | classRef =>
    exact reads_field .classRef reads_u2 (fun c => by cases c <;> simp [kind?])
      (fun _ => trivial) fun _ => rfl
  | string =>
    exact reads_field .string reads_u2 (fun c => by cases c <;> simp [kind?])
      (fun _ => trivial) fun _ => rfl
  | fieldRef =>
    exact reads_indexPair .fieldRef (fun c => by cases c <;> simp [kind?])
      (fun _ _ => trivial) fun _ _ => rfl
  | methodRef =>
    exact reads_indexPair .methodRef (fun c => by cases c <;> simp [kind?])
      (fun _ _ => trivial) fun _ _ => rfl
  | interfaceMethodRef =>
    exact reads_indexPair .interfaceMethodRef (fun c => by cases c <;> simp [kind?])
      (fun _ _ => trivial) fun _ _ => rfl
  | nameAndType =>
    exact reads_indexPair .nameAndType (fun c => by cases c <;> simp [kind?])
      (fun _ _ => trivial) fun _ _ => rfl
  | methodHandle => exact reads_methodHandlePayload
  | methodType =>
    exact reads_field .methodType reads_u2 (fun c => by cases c <;> simp [kind?])
      (fun _ => trivial) fun _ => rfl
  | invokeDynamic =>
    exact reads_indexPair .invokeDynamic (fun c => by cases c <;> simp [kind?])
      (fun _ _ => trivial) fun _ _ => rfl

/-- The reader of constants reads every well-formed constant that is not an unusable slot. -/
theorem reads_read (index : UInt16) :
    Reads (read index) (.of (fun c => c ≠ .unusable ∧ c.WellFormed) encode) := by
  refine (reads_u1.bind (H := fun tag c bs => ∃ kind, Kind.ofTag? tag = some kind ∧
    PayloadFormat kind c bs) fun tag => ?_).congr fun c bs => ?_
  · cases Kind.ofTag? tag with
    | none => exact (Reads.fail _).congr fun c bs => by simp
    | some kind => exact (reads_readPayload kind).congr fun c bs => by simp
  constructor
  · rintro ⟨tag, _, payload, rfl, rfl, kind, htag, hkind, hwf, henc⟩
    rw [Kind.ofTag?_eq_some_iff] at htag
    refine ⟨⟨fun h => ?_, hwf⟩, ?_⟩
    · rw [kind?_eq_none_iff.2 h] at hkind
      cases hkind
    · rw [henc, htag, List.singleton_append]
  · rintro ⟨⟨hne, hwf⟩, rfl⟩
    obtain ⟨kind, hkind⟩ := Option.ne_none_iff_exists'.1 (mt kind?_eq_none_iff.1 hne)
    obtain ⟨payload, henc⟩ := encode_eq_tag_cons hkind
    exact ⟨kind.tag, _, payload, rfl, henc, kind, Kind.ofTag?_eq_some_iff.2 rfl, hkind, hwf, henc⟩

end Constant

/-! ## Pools -/

namespace Pool

open Constant

/-- The format of the slots that follow those already done. -/
def SlotsFormat (left : Nat) (done : Array Constant) : Format (Array Constant) := fun slots bs =>
  ∃ new, slots.toList = done.toList ++ new ∧ new.length = left ∧ Layout new ∧
    (∀ c ∈ new, c.WellFormed) ∧ bs = new.flatMap Constant.encode

/-- What follows a constant in the slots: after a wide one its second slot and the slots after it,
after any other one the next slot. -/
theorem slotsFormat_succ (left : Nat) (done slots : Array Constant) (bs : Bytes) :
    SlotsFormat (left + 1) done slots bs ↔
      ∃ c bs₁ bs₂, Format.of (fun c => c ≠ .unusable ∧ c.WellFormed) Constant.encode c bs₁ ∧
        bs = bs₁ ++ bs₂ ∧
        if c.isWide then
          ∃ left', left = left' + 1 ∧ SlotsFormat left' ((done.push c).push .unusable) slots bs₂
        else SlotsFormat left (done.push c) slots bs₂ := by
  constructor
  · rintro ⟨new, hslots, hlen, hlayout, hwf, rfl⟩
    cases hlayout with
    | nil => simp at hlen
    | @narrow c rest hc hne hrest =>
      rw [List.forall_mem_cons] at hwf
      refine ⟨c, _, _, ⟨⟨hne, hwf.1⟩, rfl⟩, List.flatMap_cons, ?_⟩
      rw [if_neg (by simp [hc])]
      exact ⟨rest, by simpa using hslots, by simpa using hlen, hrest, hwf.2, rfl⟩
    | @wide c rest hc hrest =>
      rw [List.forall_mem_cons, List.forall_mem_cons] at hwf
      have hne : c ≠ .unusable := by
        rintro rfl
        cases hc
      refine ⟨c, _, _, ⟨⟨hne, hwf.1⟩, rfl⟩, List.flatMap_cons, ?_⟩
      rw [if_pos hc]
      exact ⟨rest.length, by simpa using hlen.symm, rest, by simpa using hslots, rfl, hrest,
        hwf.2.2, rfl⟩
  · rintro ⟨c, _, bs₂, ⟨⟨hne, hc⟩, rfl⟩, rfl, hrest⟩
    by_cases hwide : c.isWide = true
    · rw [if_pos hwide] at hrest
      obtain ⟨left, rfl, rest, hslots, hlen, hlayout, hwf, rfl⟩ := hrest
      exact ⟨c :: .unusable :: rest, by simpa using hslots, by simp [hlen], .wide hwide hlayout,
        List.forall_mem_cons.2 ⟨hc, List.forall_mem_cons.2 ⟨trivial, hwf⟩⟩,
        by simp [Constant.encode]⟩
    · rw [if_neg hwide] at hrest
      obtain ⟨rest, hslots, hlen, hlayout, hwf, rfl⟩ := hrest
      exact ⟨c :: rest, by simpa using hslots, by simp [hlen],
        .narrow (by simpa using hwide) hne hlayout, by simpa [hc] using hwf, by simp⟩

theorem readSlots_zero (index : UInt16) (done : Array Constant) :
    readSlots 0 index done = pure done := by
  funext c
  rw [readSlots]
  rfl

theorem readSlots_succ (left : Nat) (index : UInt16) (done : Array Constant) :
    readSlots (left + 1) index done = Constant.read index >>= fun c =>
      if c.isWide then
        match left with
        | 0 => fail (.noSecondSlot index)
        | left + 1 => readSlots left (index + 2) ((done.push c).push .unusable)
      else readSlots left (index + 1) (done.push c) := by
  funext c
  rw [bind_apply, readSlots.eq_def]
  dsimp only
  cases Constant.read index c with
  | error e => rfl
  | ok r =>
    obtain ⟨constant, c'⟩ := r
    by_cases hwide : constant.isWide = true
    · cases left <;> simp [hwide, fail]
    · simp [hwide]

theorem reads_readSlots (left : Nat) (index : UInt16) (done : Array Constant) :
    Reads (readSlots left index done) (SlotsFormat left done) := by
  induction left using Nat.strong_induction_on generalizing index done with
  | _ left ih =>
    cases left with
    | zero =>
      rw [readSlots_zero]
      refine (Reads.pure done).congr fun slots bs => ?_
      constructor
      · rintro ⟨rfl, rfl⟩
        exact ⟨[], by simp, rfl, .nil, by simp, rfl⟩
      · rintro ⟨new, hslots, hlen, -, -, rfl⟩
        rw [List.eq_nil_of_length_eq_zero hlen] at hslots ⊢
        exact ⟨Array.toList_inj.1 (by simpa using hslots), rfl⟩
    | succ left =>
      rw [readSlots_succ]
      refine ((Constant.reads_read index).bind fun c => ?_).congr fun slots bs =>
        (slotsFormat_succ left done slots bs).symm
      by_cases hwide : c.isWide = true
      · simp only [hwide, if_true]
        cases left with
        | zero => exact (Reads.fail _).congr fun slots bs => by simp
        | succ left =>
          exact (ih left (by omega) (index + 2) _).congr fun slots bs => by simp
      · simp only [hwide]
        exact ih left (by omega) (index + 1) _

theorem toNat_count {p : Pool} (h : p.slots.size ≤ maxSlots) :
    p.count.toNat = p.slots.size + 1 := by
  have hsize : p.slots.size ≤ 65534 := h
  rw [count, UInt16.toNat_add, UInt16.toNat_ofNat', UInt16.toNat_one]
  omega

/-- The reader of pools reads the well-formed pools from what they are written as. -/
theorem reads_read : Reads Pool.read (.of WellFormed encode) := by
  have hslots : ∀ count : UInt16, Reads
      (if count = 0 then fail (.badPoolCount count)
        else readSlots (count.toNat - 1) 1 #[] >>= fun slots => pure (Pool.mk slots))
      fun p bs => count ≠ 0 ∧ SlotsFormat (count.toNat - 1) #[] p.slots bs := by
    intro count
    by_cases hcount : count = 0
    · rw [if_pos hcount]
      exact (Reads.fail _).congr fun p bs => by simp [hcount]
    · rw [if_neg hcount]
      refine ((reads_readSlots _ _ _).bind fun slots => Reads.pure (Pool.mk slots)).congr
        fun p bs => ?_
      constructor
      · rintro ⟨slots, _, _, hslots, rfl, rfl, rfl⟩
        rw [List.append_nil]
        exact ⟨hcount, hslots⟩
      · rintro ⟨-, hslots⟩
        exact ⟨p.slots, bs, [], hslots, (List.append_nil _).symm, rfl, rfl⟩
  refine (reads_u2.bind hslots).congr fun p bs => ?_
  constructor
  · rintro ⟨count, _, _, rfl, rfl, hcount, new, hslots, hlen, hlayout, hwf, rfl⟩
    have hnew : p.slots.toList = new := by simpa using hslots
    have hpos : count.toNat ≠ 0 := fun h => hcount (UInt16.toNat_inj.1 h)
    have hlt := count.toNat_lt
    have hsize : p.slots.size = count.toNat - 1 := by
      rw [← hlen, ← hnew, Array.length_toList]
    have hle : p.slots.size ≤ maxSlots := by
      rw [hsize, maxSlots]
      omega
    have hcount' : p.count = count := by
      rw [← UInt16.toNat_inj, toNat_count hle]
      omega
    refine ⟨⟨hle, hnew ▸ hlayout, hnew ▸ hwf⟩, ?_⟩
    rw [encode, hcount', hnew]
  · rintro ⟨hwf, rfl⟩
    have hcount := toNat_count hwf.size_le
    refine ⟨p.count, _, _, rfl, rfl, ?_, p.slots.toList, by simp, ?_, hwf.layout, hwf.constants,
      rfl⟩
    · intro h
      rw [h] at hcount
      simp at hcount
    · rw [hcount, Array.length_toList]
      rfl

end Pool
end ClassLiterals
