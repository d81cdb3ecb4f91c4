import ClassLiterals.Bytecode.Scan
import ClassLiterals.Proofs.Bytes.BigEndian
import ClassLiterals.Proofs.Bytes.Splicing

/-!
# Operations and the bytes they are laid out as

An operation is an instruction taken by itself: what it does, without a place in a code array. At a
place it takes the byte of its opcode and its operand bytes; the operands of a switch start at the
next multiple of four, and the bytes before them may be anything.

The reader of instructions reads each operation from its bytes, whatever follows them, and whatever
it reads are the bytes of exactly one operation.

Main results: `Operation.Encodes.read_eq`, `Operation.exists_encodes_of_read` and
`Operation.Encodes.unique`.
-/

namespace ClassLiterals

/-! ## Words in a row -/

namespace Bytes

theorem ofUInt32_injective : Function.Injective ofUInt32 :=
  Function.LeftInverse.injective (g := fun bs => UInt32.ofNat (toNat bs)) uint32_toNat_ofUInt32

theorem toUInt32_injective : Function.Injective Int32.toUInt32 :=
  Function.LeftInverse.injective Int32.toInt32_toUInt32

/-- A count below the sign bit is read as itself. -/
theorem toInt_toInt32_ofNat {n : Nat} (h : n < 2 ^ 31) :
    (UInt32.ofNat n).toInt32.toInt = n := by
  have hnat : (UInt32.ofNat n).toNat = n := UInt32.toNat_ofNat_of_lt' (by change n < 2 ^ 32; omega)
  change (UInt32.ofNat n).toBitVec.toInt = n
  rw [BitVec.toInt_eq_toNat_of_lt (by change 2 * (UInt32.ofNat n).toNat < 2 ^ 32; omega)]
  exact congrArg Nat.cast hnat

variable {α : Type} {encode : α → Bytes} {width : Nat}

/-- Bytes that are as many as `n` values take are those of `n` values, when any bytes of the width
are those of a value. -/
theorem exists_flatMap_eq (hsurj : ∀ bs : Bytes, bs.length = width → ∃ a, encode a = bs) (n : Nat)
    (bs : Bytes) (h : bs.length = width * n) :
    ∃ as : List α, as.length = n ∧ as.flatMap encode = bs := by
  induction n generalizing bs with
  | zero => exact ⟨[], rfl, (List.eq_nil_of_length_eq_zero h).symm⟩
  | succ n ih =>
    rw [Nat.mul_succ] at h
    obtain ⟨a, ha⟩ := hsurj (bs.take width) (List.length_take_of_le (by omega))
    obtain ⟨as, hlen, has⟩ := ih (bs.drop width) (by rw [List.length_drop]; omega)
    exact ⟨a :: as, by simp [hlen], by rw [List.flatMap_cons, ha, has, List.take_append_drop]⟩

/-- As many values of one width can be told from their bytes in a row. -/
theorem flatMap_injective (hwidth : ∀ a, (encode a).length = width)
    (hinj : Function.Injective encode) {as as' : List α} (hlen : as.length = as'.length)
    (h : as.flatMap encode = as'.flatMap encode) : as = as' := by
  induction as generalizing as' with
  | nil => exact (List.eq_nil_of_length_eq_zero hlen.symm).symm
  | cons a as ih =>
    cases as' with
    | nil => simp at hlen
    | cons a' as' =>
      rw [List.flatMap_cons, List.flatMap_cons] at h
      obtain ⟨hhead, htail⟩ := List.append_inj h (by rw [hwidth, hwidth])
      rw [hinj hhead, ih (by simpa using hlen) htail]

/-- The bytes of a pair of words. -/
def ofPair (p : UInt32 × UInt32) : Bytes := ofUInt32 p.1 ++ ofUInt32 p.2

theorem length_ofPair (p : UInt32 × UInt32) : (ofPair p).length = 8 := by simp [ofPair]

theorem ofPair_injective : Function.Injective ofPair := by
  intro p q h
  obtain ⟨h1, h2⟩ := List.append_inj h (by simp)
  exact Prod.ext (ofUInt32_injective h1) (ofUInt32_injective h2)

theorem exists_ofUInt32_eq (bs : Bytes) (h : bs.length = 4) : ∃ v, ofUInt32 v = bs :=
  ⟨_, ofUInt32_toNat h⟩

theorem exists_ofPair_eq (bs : Bytes) (h : bs.length = 8) : ∃ p, ofPair p = bs := by
  obtain ⟨v, hv⟩ := exists_ofUInt32_eq (bs.take 4) (List.length_take_of_le (by omega))
  obtain ⟨w, hw⟩ := exists_ofUInt32_eq (bs.drop 4) (by rw [List.length_drop, h])
  exact ⟨(v, w), by rw [ofPair, hv, hw, List.take_append_drop]⟩

end Bytes

/-! ## Operations -/

/-- An instruction by itself, without a place in a code array. -/
inductive Operation where
  /-- An opcode with a fixed number of operand bytes. -/
  | fixed (opcode : UInt8) (operands : Bytes)
      (h : OperandForm.ofOpcode opcode = .fixed operands.length)
  /-- An opcode outside the instruction set. -/
  | undefined (opcode : UInt8) (h : OperandForm.ofOpcode opcode = .undefined)
  /-- Another opcode with wide operands. -/
  | wide (modified : UInt8) (operands : Bytes)
      (h : operands.length = if modified = Opcode.iinc then 4 else 2)
  /-- A default and an offset for every value of a range. -/
  | tableSwitch (default : UInt32) (low high : Int32) (offsets : List UInt32) (hrange : low ≤ high)
      (hlength : (offsets.length : Int) = high.toInt - low.toInt + 1)
  /-- A default and pairs of a value and its offset. -/
  | lookupSwitch (default : UInt32) (pairs : List (UInt32 × UInt32)) (h : pairs.length < 2 ^ 31)

namespace Operation

def opcode : Operation → UInt8
  | fixed opcode _ _ => opcode
  | undefined opcode _ => opcode
  | wide .. => Opcode.wide
  | tableSwitch .. => Opcode.tableSwitch
  | lookupSwitch .. => Opcode.lookupSwitch

/-- What follows the opcode. -/
def form : Operation → OperandForm
  | fixed _ operands _ => .fixed operands.length
  | undefined .. => .undefined
  | wide .. => .wide
  | tableSwitch .. => .tableSwitch
  | lookupSwitch .. => .lookupSwitch

/-- Whether the operands start at a multiple of four. -/
def isAligned : Operation → Bool
  | tableSwitch .. => true
  | lookupSwitch .. => true
  | _ => false

/-- The operand bytes, those apart that stand before the operands of a switch. -/
def body : Operation → Bytes
  | fixed _ operands _ => operands
  | undefined .. => []
  | wide modified operands _ => modified :: operands
  | tableSwitch default low high offsets _ _ =>
    Bytes.ofUInt32 default ++ Bytes.ofUInt32 low.toUInt32 ++ Bytes.ofUInt32 high.toUInt32 ++
      offsets.flatMap Bytes.ofUInt32
  | lookupSwitch default pairs _ =>
    Bytes.ofUInt32 default ++ Bytes.ofUInt32 (UInt32.ofNat pairs.length) ++
      pairs.flatMap Bytes.ofPair

/-- `padding` may stand between the opcode at `pc` and the operands. -/
def Pads (op : Operation) (pc : Nat) (padding : Bytes) : Prop :=
  if op.isAligned then padding.length < 4 ∧ (pc + 1 + padding.length) % 4 = 0 else padding = []

/-- The instruction is the operation at some place. -/
structure Encodes (op : Operation) (i : Instruction) : Prop where
  opcode_eq : i.opcode = op.opcode
  operands_eq : ∃ padding, op.Pads i.pc padding ∧ i.operands = padding ++ op.body

/-- The instructions are the operations one after the other from `pc` on. -/
inductive LaidOut : Nat → List Operation → List Instruction → Prop where
  | nil (pc : Nat) : LaidOut pc [] []
  | cons {pc : Nat} {op : Operation} {ops : List Operation} {i : Instruction}
      {is : List Instruction} (hpc : i.pc = pc) (hi : op.Encodes i)
      (hrest : LaidOut (pc + i.size) ops is) : LaidOut pc (op :: ops) (i :: is)

end Operation

/-! ## Opcodes -/

namespace OperandForm

/-- The opcode of a form that only one opcode has. -/
def owner? : OperandForm → Option UInt8
  | fixed _ => none
  | undefined => none
  | tableSwitch => some Opcode.tableSwitch
  | lookupSwitch => some Opcode.lookupSwitch
  | wide => some Opcode.wide

/-- No other opcode has a form that is for one opcode alone. -/
theorem eq_of_owner {opcode owner : UInt8} {form : OperandForm} (hform : ofOpcode opcode = form)
    (howner : form.owner? = some owner) : opcode = owner := by
  have hall : ∀ opcode : UInt8,
      (ofOpcode opcode).owner? = none ∨ (ofOpcode opcode).owner? = some opcode := by
    decide +kernel
  rw [← hform] at howner
  rcases hall opcode with hnone | hsome
  · rw [hnone] at howner
    cases howner
  · rw [hsome] at howner
    exact Option.some.inj howner

end OperandForm

theorem Operation.ofOpcode_opcode (op : Operation) : OperandForm.ofOpcode op.opcode = op.form := by
  cases op with
  | fixed opcode operands h => exact h
  | undefined opcode h => exact h
  | wide => rfl
  | tableSwitch => rfl
  | lookupSwitch => rfl

theorem Operation.Encodes.form_eq {op : Operation} {i : Instruction} (h : op.Encodes i) :
    OperandForm.ofOpcode i.opcode = op.form := by
  rw [h.opcode_eq, op.ofOpcode_opcode]

/-! ## Padding and numbers in operands -/

namespace Instruction

variable {pc : Nat}

/-- There is one number of bytes below four after which a multiple of four comes. -/
theorem eq_switchPadding_iff {n : Nat} :
    n = switchPadding pc ↔ n < 4 ∧ (pc + 1 + n) % 4 = 0 := by
  unfold switchPadding
  omega

/-- The number of four bytes after others. -/
theorem signedAt_append (front rest : Bytes) (v : UInt32) :
    signedAt (front ++ (Bytes.ofUInt32 v ++ rest)) front.length = v.toInt32 := by
  have hslice : (front ++ (Bytes.ofUInt32 v ++ rest)).slice front.length (front.length + 4) =
      Bytes.ofUInt32 v := by
    rw [← Bytes.length_ofUInt32 v]
    exact Bytes.slice_append_append front (Bytes.ofUInt32 v) rest
  rw [signedAt, hslice, Bytes.uint32_toNat_ofUInt32]

/-- The first four bytes of what follows are those of a number. -/
theorem take_number {bs : Bytes} {start : Nat} (h : start + 4 ≤ bs.length) (n : Nat) :
    (bs.drop start).take (4 + n) =
      Bytes.ofUInt32 (signedAt bs start).toUInt32 ++ (bs.drop (start + 4)).take n := by
  have hslice : bs.slice start (start + 4) = (bs.drop start).take 4 := by
    rw [Bytes.slice, Nat.add_sub_cancel_left]
  have hlen : ((bs.drop start).take 4).length = 4 := by
    rw [List.length_take, List.length_drop]
    omega
  rw [List.take_add, List.drop_drop, signedAt, UInt32.toUInt32_toInt32, hslice,
    Bytes.ofUInt32_toNat hlen]

end Instruction

/-! ## Reading an operation from its bytes -/

namespace Operation

open Instruction

variable {op op' : Operation} {i : Instruction}

theorem Encodes.operandCount_eq (h : op.Encodes i) (rest : Bytes) :
    operandCount i.pc i.opcode (i.operands ++ rest) = .ok i.operands.length := by
  obtain ⟨padding, hpads, hoperands⟩ := h.operands_eq
  rw [operandCount.eq_def, h.form_eq]
  cases op with
  | fixed opcode operands hform =>
    obtain rfl : padding = [] := hpads
    rw [hoperands]
    rfl
  | undefined opcode hform =>
    obtain rfl : padding = [] := hpads
    rw [hoperands]
    rfl
  | wide modified operands hlen =>
    obtain rfl : padding = [] := hpads
    rw [hoperands]
    simp only [form, body, List.nil_append, List.cons_append, List.length_cons, hlen]
    split_ifs <;> rfl
  | tableSwitch default low high offsets hrange hlength =>
    have hpadding : padding.length = switchPadding i.pc := eq_switchPadding_iff.2 hpads
    have hlen : i.operands.length = switchPadding i.pc + 12 + 4 * offsets.length := by
      simp [hoperands, body, hpadding, Bytes.length_flatMap_of_width Bytes.length_ofUInt32]
      omega
    have hlow : signedAt (i.operands ++ rest) (switchPadding i.pc + 4) = low := by
      have h := signedAt_append (padding ++ Bytes.ofUInt32 default)
        (Bytes.ofUInt32 high.toUInt32 ++ offsets.flatMap Bytes.ofUInt32 ++ rest) low.toUInt32
      rw [Int32.toInt32_toUInt32] at h
      rw [← h]
      simp [hoperands, body, hpadding]
    have hhigh : signedAt (i.operands ++ rest) (switchPadding i.pc + 8) = high := by
      have h := signedAt_append (padding ++ Bytes.ofUInt32 default ++ Bytes.ofUInt32 low.toUInt32)
        (offsets.flatMap Bytes.ofUInt32 ++ rest) high.toUInt32
      rw [Int32.toInt32_toUInt32] at h
      rw [← h]
      simp [hoperands, body, hpadding]
    have henough : (i.operands ++ rest).hasAtLeast (switchPadding i.pc + 12) = true := by
      rw [Bytes.hasAtLeast_iff, List.length_append]
      omega
    simp only [form, henough, if_true, hlow, hhigh, if_neg (Int32.not_lt.2 hrange)]
    congr 1
    omega
  | lookupSwitch default pairs hlt =>
    have hpadding : padding.length = switchPadding i.pc := eq_switchPadding_iff.2 hpads
    have hlen : i.operands.length = switchPadding i.pc + 8 + 8 * pairs.length := by
      simp [hoperands, body, hpadding, Bytes.length_flatMap_of_width Bytes.length_ofPair]
      omega
    have hcount : (signedAt (i.operands ++ rest) (switchPadding i.pc + 4)).toInt =
        pairs.length := by
      have h := signedAt_append (padding ++ Bytes.ofUInt32 default)
        (pairs.flatMap Bytes.ofPair ++ rest) (UInt32.ofNat pairs.length)
      rw [← Bytes.toInt_toInt32_ofNat hlt, ← h]
      simp [hoperands, body, hpadding]
    have hnonneg : ¬ signedAt (i.operands ++ rest) (switchPadding i.pc + 4) < 0 := by
      rw [Int32.lt_iff_toInt_lt, hcount, Int32.toInt_zero]
      omega
    have henough : (i.operands ++ rest).hasAtLeast (switchPadding i.pc + 8) = true := by
      rw [Bytes.hasAtLeast_iff, List.length_append]
      omega
    simp only [form, henough, if_true, if_neg hnonneg, hcount]
    congr 1
    omega

/-- An operation is read from its bytes, whatever follows them. -/
theorem Encodes.read_eq (h : op.Encodes i) (rest : Bytes) :
    Instruction.read i.pc i.opcode (i.operands ++ rest) = .ok i := by
  have henough : (i.operands ++ rest).hasAtLeast i.operands.length = true := by
    rw [Bytes.hasAtLeast_iff, List.length_append]
    omega
  rw [Instruction.read, h.operandCount_eq]
  simp [henough]

/-! ## What is read is an operation -/

section Sound

variable {pc : Nat} {opcode : UInt8} {after : Bytes} {count : Nat}

/-- The operand bytes of a switch are padding, a default and what follows it. -/
theorem exists_padding_default (hle : switchPadding pc + 4 + count ≤ after.length) :
    ∃ padding default, padding.length < 4 ∧ (pc + 1 + padding.length) % 4 = 0 ∧
      after.take (switchPadding pc + 4 + count) =
        padding ++ (Bytes.ofUInt32 default ++ (after.drop (switchPadding pc + 4)).take count) := by
  have hlen : (after.take (switchPadding pc)).length = switchPadding pc :=
    List.length_take_of_le (by omega)
  obtain ⟨hlt, hmod⟩ := eq_switchPadding_iff.1 hlen
  refine ⟨after.take (switchPadding pc), (signedAt after (switchPadding pc)).toUInt32, hlt, hmod,
    ?_⟩
  rw [Nat.add_assoc, List.take_add, take_number (by omega)]

/-- As many operand bytes as are needed are those of an operation. -/
theorem exists_encodes (h : operandCount pc opcode after = .ok count)
    (hle : count ≤ after.length) :
    ∃ op : Operation, op.Encodes ⟨pc, opcode, after.take count⟩ := by
  rw [operandCount.eq_def] at h
  cases hform : OperandForm.ofOpcode opcode with
  | fixed n =>
    simp only [hform] at h
    cases h
    exact ⟨.fixed opcode (after.take count) (by rw [hform, List.length_take_of_le hle]), rfl, [],
      rfl, rfl⟩
  | undefined =>
    simp only [hform] at h
    cases h
    exact ⟨.undefined opcode hform, rfl, [], rfl, rfl⟩
  | wide =>
    simp only [hform] at h
    cases after with
    | nil => cases h
    | cons modified after =>
      have hcount : count = (if modified = Opcode.iinc then 4 else 2) + 1 := by
        simp only at h
        cases h
        split_ifs <;> rfl
      rw [hcount, List.length_cons] at hle
      refine ⟨.wide modified (after.take (if modified = Opcode.iinc then 4 else 2))
        (List.length_take_of_le (by omega)), OperandForm.eq_of_owner hform rfl, [], rfl, ?_⟩
      simp [body, hcount]
  | tableSwitch =>
    simp only [hform] at h
    split_ifs at h with henough hrange
    cases h
    set low := signedAt after (switchPadding pc + 4)
    set high := signedAt after (switchPadding pc + 8)
    set n := (high.toInt - low.toInt + 1).toNat with hn
    have hle' : low.toInt ≤ high.toInt := Int32.le_iff_toInt_le.1 (Int32.not_lt.1 hrange)
    have hcount : switchPadding pc + 12 + 4 * n = switchPadding pc + 4 + (4 + (4 + 4 * n)) := by
      omega
    rw [hcount] at hle ⊢
    obtain ⟨padding, default, hlt, hmod, htake⟩ := exists_padding_default hle
    obtain ⟨offsets, hlen, hoffsets⟩ := Bytes.exists_flatMap_eq Bytes.exists_ofUInt32_eq n
      ((after.drop (switchPadding pc + 12)).take (4 * n))
      (by rw [List.length_take, List.length_drop]; omega)
    refine ⟨.tableSwitch default low high offsets (Int32.not_lt.1 hrange) (by omega),
      OperandForm.eq_of_owner hform rfl, padding, ⟨hlt, hmod⟩, ?_⟩
    rw [htake, take_number (by omega), take_number (by omega), body, hoffsets]
    simp only [List.append_assoc]
    rfl
  | lookupSwitch =>
    simp only [hform] at h
    split_ifs at h with henough hpairs
    cases h
    set pairCount := signedAt after (switchPadding pc + 4)
    have hnonneg : 0 ≤ pairCount.toInt := Int32.le_iff_toInt_le.1 (Int32.not_lt.1 hpairs)
    have hcount : switchPadding pc + 8 + 8 * pairCount.toInt.toNat =
        switchPadding pc + 4 + (4 + 8 * pairCount.toInt.toNat) := by
      omega
    rw [hcount] at hle ⊢
    obtain ⟨padding, default, hlt, hmod, htake⟩ := exists_padding_default hle
    obtain ⟨pairs, hlen, hbytes⟩ := Bytes.exists_flatMap_eq Bytes.exists_ofPair_eq
      pairCount.toInt.toNat ((after.drop (switchPadding pc + 8)).take (8 * pairCount.toInt.toNat))
      (by rw [List.length_take, List.length_drop]; omega)
    have hbound : pairs.length < 2 ^ 31 := by
      have := pairCount.toInt_lt
      omega
    have hword : UInt32.ofNat pairs.length = pairCount.toUInt32 := by
      have hint : (UInt32.ofNat pairs.length).toInt32 = pairCount := by
        rw [← Int32.toInt_inj, Bytes.toInt_toInt32_ofNat hbound]
        omega
      rw [← hint, UInt32.toUInt32_toInt32]
    refine ⟨.lookupSwitch default pairs hbound, OperandForm.eq_of_owner hform rfl, padding,
      ⟨hlt, hmod⟩, ?_⟩
    rw [htake, take_number (by omega), body, hbytes, hword]
    simp only [List.append_assoc]
    rfl

/-- What is read are the bytes of an operation at the front of what follows the opcode. -/
theorem exists_encodes_of_read (h : Instruction.read pc opcode after = .ok i) :
    i.pc = pc ∧ i.opcode = opcode ∧ after = i.operands ++ after.drop i.operands.length ∧
      ∃ op : Operation, op.Encodes i := by
  rw [Instruction.read] at h
  cases hcount : operandCount pc opcode after with
  | error e => simp [hcount] at h
  | ok count =>
    rw [hcount] at h
    simp only at h
    split_ifs at h with henough
    cases h
    rw [Bytes.hasAtLeast_iff] at henough
    refine ⟨rfl, rfl, ?_, exists_encodes hcount henough⟩
    rw [List.length_take_of_le henough, List.take_append_drop]

end Sound

/-! ## One operation for an instruction -/

/-- The padding of two operations that an instruction is. -/
theorem Encodes.body_eq (h : op.Encodes i) (h' : op'.Encodes i)
    (haligned : op.isAligned = op'.isAligned) : op.body = op'.body := by
  obtain ⟨padding, hpads, hoperands⟩ := h.operands_eq
  obtain ⟨padding', hpads', hoperands'⟩ := h'.operands_eq
  have hlen : padding.length = padding'.length := by
    rw [Pads, haligned] at hpads
    rw [Pads] at hpads'
    split_ifs at hpads hpads'
    · rw [eq_switchPadding_iff.2 hpads, eq_switchPadding_iff.2 hpads']
    · rw [hpads, hpads']
  exact (List.append_inj (hoperands.symm.trans hoperands') hlen).2

/-- An instruction is one operation only. -/
theorem Encodes.unique (h : op.Encodes i) (h' : op'.Encodes i) : op = op' := by
  have hopcode : op.opcode = op'.opcode := h.opcode_eq.symm.trans h'.opcode_eq
  have hform : op.form = op'.form := h.form_eq.symm.trans h'.form_eq
  cases op with
  | fixed opcode operands hf =>
    cases op' with
    | fixed opcode' operands' hf' =>
      obtain rfl : opcode = opcode' := hopcode
      obtain rfl : operands = operands' := h.body_eq h' rfl
      rfl
    | _ => cases hform
  | undefined opcode hf =>
    cases op' with
    | undefined opcode' hf' =>
      obtain rfl : opcode = opcode' := hopcode
      rfl
    | _ => cases hform
  | wide modified operands hf =>
    cases op' with
    | wide modified' operands' hf' =>
      obtain ⟨rfl, rfl⟩ := List.cons.inj (h.body_eq h' rfl)
      rfl
    | _ => cases hform
  | tableSwitch default low high offsets hrange hlength =>
    cases op' with
    | tableSwitch default' low' high' offsets' hrange' hlength' =>
      have hbody := h.body_eq h' rfl
      simp only [body] at hbody
      obtain ⟨hbody, hoffsets⟩ := List.append_inj hbody (by simp)
      obtain ⟨hbody, hhigh⟩ := List.append_inj hbody (by simp)
      obtain ⟨hdefault, hlow⟩ := List.append_inj hbody (by simp)
      obtain rfl := Bytes.ofUInt32_injective hdefault
      obtain rfl := Bytes.toUInt32_injective (Bytes.ofUInt32_injective hlow)
      obtain rfl := Bytes.toUInt32_injective (Bytes.ofUInt32_injective hhigh)
      obtain rfl := Bytes.flatMap_injective Bytes.length_ofUInt32 Bytes.ofUInt32_injective
        (by omega) hoffsets
      rfl
    | _ => cases hform
  | lookupSwitch default pairs hlt =>
    cases op' with
    | lookupSwitch default' pairs' hlt' =>
      have hbody := h.body_eq h' rfl
      simp only [body] at hbody
      obtain ⟨hbody, hpairs⟩ := List.append_inj hbody (by simp)
      obtain ⟨hdefault, hcount⟩ := List.append_inj hbody (by simp)
      obtain rfl := Bytes.ofUInt32_injective hdefault
      have hlen : pairs.length = pairs'.length := by
        have hint := Bytes.toInt_toInt32_ofNat hlt
        rw [Bytes.ofUInt32_injective hcount, Bytes.toInt_toInt32_ofNat hlt'] at hint
        omega
      obtain rfl := Bytes.flatMap_injective Bytes.length_ofPair Bytes.ofPair_injective hlen hpairs
      rfl
    | _ => cases hform

/-! ## Layouts -/

section Layout

variable {pc : Nat} {ops ops' : List Operation} {is : List Instruction}

/-- Every operation can be placed anywhere. -/
theorem exists_encodes_at (op : Operation) (pc : Nat) :
    ∃ i : Instruction, i.pc = pc ∧ op.Encodes i := by
  by_cases haligned : op.isAligned = true
  · have hpads : op.Pads pc (List.replicate (switchPadding pc) 0) := by
      rw [Pads, if_pos haligned]
      exact eq_switchPadding_iff.1 List.length_replicate
    exact ⟨⟨pc, op.opcode, _⟩, rfl, rfl, _, hpads, rfl⟩
  · have hpads : op.Pads pc [] := by rw [Pads, if_neg haligned]
    exact ⟨⟨pc, op.opcode, op.body⟩, rfl, rfl, [], hpads, rfl⟩

/-- Operations can be laid out in any order, from any place on. -/
theorem exists_laidOut (pc : Nat) (ops : List Operation) : ∃ is, LaidOut pc ops is := by
  induction ops generalizing pc with
  | nil => exact ⟨[], .nil pc⟩
  | cons op ops ih =>
    obtain ⟨i, hpc, hi⟩ := op.exists_encodes_at pc
    obtain ⟨is, his⟩ := ih (pc + i.size)
    exact ⟨i :: is, .cons hpc hi his⟩

theorem LaidOut.exists_encodes (h : LaidOut pc ops is) (hi : i ∈ is) :
    ∃ op : Operation, op.Encodes i := by
  induction h with
  | nil pc => exact absurd hi List.not_mem_nil
  | @cons pc op ops j is hpc hj hrest ih =>
    rcases List.mem_cons.1 hi with rfl | hi
    · exact ⟨op, hj⟩
    · exact ih hi

/-- Instructions are laid out from one list of operations only. -/
theorem LaidOut.unique (h : LaidOut pc ops is) (h' : LaidOut pc ops' is) : ops = ops' := by
  induction h generalizing ops' with
  | nil pc =>
    cases h'
    rfl
  | cons hpc hi hrest ih =>
    cases h' with
    | cons hpc' hi' hrest' => rw [hi.unique hi', ih hrest']

end Layout

end Operation

end ClassLiterals
