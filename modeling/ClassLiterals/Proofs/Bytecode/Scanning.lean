import ClassLiterals.Proofs.Bytecode.Operation

/-!
# Scanning code arrays

A scan of a code array succeeds when the code is operations laid out one after the other, and only
then. There is one such list of operations, the walk through the code gives its instructions, and
the scan lists its loads and counts its operations. No read of operand bytes goes beyond the bytes
that are there.

The walk is described for any code: the instructions before the place where it stops are laid out
operations, and it stops at the end of the code or at an instruction that cannot be read.

Main result: `Scan.scan_matchesLayout`.
-/

namespace ClassLiterals

open Operation

/-! ## Loads -/

namespace LoadKind

/-- The number of bytes of the index. -/
def width : LoadKind → Nat
  | ldc => 1
  | ldcW => 2
  | ldc2W => 2

theorem form_of_ofOpcode? {opcode : UInt8} {kind : LoadKind} (h : ofOpcode? opcode = some kind) :
    OperandForm.ofOpcode opcode = .fixed kind.width := by
  revert opcode
  cases kind <;> decide +kernel

end LoadKind

/-- The load site whose index is read from operand bytes: one byte, or two with the high one first.
There is none when the bytes do not suffice. -/
def LoadSite.read? (pc : Nat) : LoadKind → Bytes → Option LoadSite
  | .ldc, index :: _ => some ⟨.ldc, index.toUInt16, pc⟩
  | .ldcW, high :: low :: _ => some ⟨.ldcW, high.toUInt16 * 256 + low.toUInt16, pc⟩
  | .ldc2W, high :: low :: _ => some ⟨.ldc2W, high.toUInt16 * 256 + low.toUInt16, pc⟩
  | _, _ => none

theorem LoadSite.read?_eq (pc : Nat) {kind : LoadKind} {operands : Bytes}
    (h : operands.length = kind.width) :
    read? pc kind operands = some ⟨kind, UInt16.ofNat operands.toNat, pc⟩ := by
  cases kind with
  | ldc =>
    obtain ⟨index, rfl⟩ := List.length_eq_one_iff.1 h
    simp [read?, Bytes.toNat]
  | ldcW =>
    obtain ⟨high, low, rfl⟩ := List.length_eq_two.1 h
    simp [read?, Bytes.toNat]
  | ldc2W =>
    obtain ⟨high, low, rfl⟩ := List.length_eq_two.1 h
    simp [read?, Bytes.toNat]

namespace Operation

variable {op : Operation} {i : Instruction}

/-- The load site that an operation at `pc` is. -/
def loadSite? (pc : Nat) : Operation → Option LoadSite
  | fixed opcode operands _ => (LoadKind.ofOpcode? opcode).bind fun kind =>
    LoadSite.read? pc kind operands
  | _ => none

/-- Whether the opcode belongs to the instruction set. -/
def isDefined : Operation → Bool
  | undefined .. => false
  | _ => true

theorem Encodes.isDefined_eq (h : op.Encodes i) : i.isDefined = op.isDefined := by
  rw [Instruction.isDefined, h.form_eq]
  cases op <;> rfl

/-- A load has its index, and nothing else, as its operands. -/
theorem Encodes.eq_fixed_of_load (h : op.Encodes i) {kind : LoadKind}
    (hkind : LoadKind.ofOpcode? i.opcode = some kind) :
    i.operands.length = kind.width ∧ ∃ hform, op = .fixed i.opcode i.operands hform := by
  have hform := LoadKind.form_of_ofOpcode? hkind
  rw [h.form_eq] at hform
  cases op with
  | fixed opcode operands hf =>
    obtain ⟨padding, hpads, hoperands⟩ := h.operands_eq
    obtain rfl : padding = [] := hpads
    obtain rfl : i.operands = operands := hoperands
    obtain rfl : i.opcode = opcode := h.opcode_eq
    exact ⟨OperandForm.fixed.inj hform, hf, rfl⟩
  | _ => cases hform

theorem Encodes.loadSite?_eq (h : op.Encodes i) : i.loadSite? = op.loadSite? i.pc := by
  rw [Instruction.loadSite?]
  cases hkind : LoadKind.ofOpcode? i.opcode with
  | none =>
    rw [h.opcode_eq] at hkind
    cases op with
    | fixed opcode operands hf =>
      change LoadKind.ofOpcode? opcode = none at hkind
      simp [loadSite?, hkind]
    | _ => rfl
  | some kind =>
    obtain ⟨hlen, hf, rfl⟩ := h.eq_fixed_of_load hkind
    simp [loadSite?, hkind, LoadSite.read?_eq i.pc hlen]

end Operation

/-! ## Reads of operand bytes -/

namespace Instruction

/-- The signed number of four bytes at a position, when all of them are there. -/
def signedAt? (bs : Bytes) (start : Nat) : Option Int32 :=
  if start + 4 ≤ bs.length then some (signedAt bs start) else none

/-- The number of operand bytes, found with reads that give nothing beyond the end of `after`. -/
def checkedOperandCount (pc : Nat) (opcode : UInt8) (after : Bytes) :
    Option (Except ScanError Nat) :=
  match OperandForm.ofOpcode opcode with
  | .fixed count => some (.ok count)
  | .undefined => some (.ok 0)
  | .wide =>
    match after.head? with
    | none => some (.error (.truncated pc opcode 1 0))
    | some modified => some (.ok (if modified = Opcode.iinc then 5 else 3))
  | .tableSwitch =>
    let padding := switchPadding pc
    let header := padding + 12
    if header > after.length then some (.error (.truncated pc opcode header after.length))
    else
      (signedAt? after (padding + 4)).bind fun low =>
        (signedAt? after (padding + 8)).map fun high =>
          if high < low then .error (.badTableSwitch pc low high)
          else .ok (header + 4 * (high.toInt - low.toInt + 1).toNat)
  | .lookupSwitch =>
    let padding := switchPadding pc
    let header := padding + 8
    if header > after.length then some (.error (.truncated pc opcode header after.length))
    else
      (signedAt? after (padding + 4)).map fun pairs =>
        if pairs < 0 then .error (.badLookupSwitch pc pairs)
        else .ok (header + 8 * pairs.toInt.toNat)

/-- No read for the number of operand bytes goes beyond the bytes that are there. -/
theorem checkedOperandCount_eq (pc : Nat) (opcode : UInt8) (after : Bytes) :
    checkedOperandCount pc opcode after = some (operandCount pc opcode after) := by
  rw [checkedOperandCount, operandCount.eq_def]
  cases OperandForm.ofOpcode opcode with
  | fixed count => rfl
  | undefined => rfl
  | wide => cases after <;> rfl
  | tableSwitch =>
    by_cases h : switchPadding pc + 12 ≤ after.length
    · have hlow : signedAt? after (switchPadding pc + 4) = some _ := if_pos (by omega)
      have hhigh : signedAt? after (switchPadding pc + 8) = some _ := if_pos (by omega)
      simp [hlow, hhigh, h]
    · simp [h]
  | lookupSwitch =>
    by_cases h : switchPadding pc + 8 ≤ after.length
    · have hpairs : signedAt? after (switchPadding pc + 4) = some _ := if_pos (by omega)
      simp [hpairs, h]
    · simp [h]

/-- The load site of an instruction, found with reads that give nothing beyond the operands. -/
def checkedLoadSite (i : Instruction) : Option (Option LoadSite) :=
  match LoadKind.ofOpcode? i.opcode with
  | none => some none
  | some kind => (LoadSite.read? i.pc kind i.operands).map some

/-- No read for the load site of an operation goes beyond its operand bytes. -/
theorem checkedLoadSite_eq {op : Operation} {i : Instruction} (h : op.Encodes i) :
    i.checkedLoadSite = some i.loadSite? := by
  rw [checkedLoadSite, loadSite?]
  cases hkind : LoadKind.ofOpcode? i.opcode with
  | none => rfl
  | some kind => simp [LoadSite.read?_eq i.pc (h.eq_fixed_of_load hkind).1]

end Instruction

/-! ## Walks -/

theorem Instruction.length_flatMap_encode_cons (i : Instruction) (is : List Instruction) :
    ((i :: is).flatMap Instruction.encode).length =
      i.size + (is.flatMap Instruction.encode).length := by
  rw [List.flatMap_cons, List.length_append, encode, List.length_cons, size, Nat.add_comm 1]

namespace InstructionWalk

/-- Why a walk ends at `pc`, with `rest` of the code left: nothing is left, or the instruction there
cannot be read. -/
def Stops (pc : Nat) (rest : Bytes) : Option ScanError → Prop
  | none => rest = []
  | some e => ∃ opcode after, rest = opcode :: after ∧ Instruction.read pc opcode after = .error e

/-- A walk goes through laid-out operations up to the place where it stops. -/
theorem go_spec (pc : Nat) (code : Bytes) (done : List Instruction) :
    ∃ ops is rest, (go pc code done).instructions = done.reverse ++ is ∧ LaidOut pc ops is ∧
      code = is.flatMap Instruction.encode ++ rest ∧
      Stops (pc + (is.flatMap Instruction.encode).length) rest (go pc code done).failure := by
  fun_induction go pc code done with
  | case1 pc done => exact ⟨[], [], [], by simp, .nil pc, rfl, rfl⟩
  | case2 pc done opcode after e he =>
    exact ⟨[], [], opcode :: after, by simp, .nil pc, rfl, opcode, after, rfl, he⟩
  | case3 pc done opcode after i hi ih =>
    obtain ⟨hpc, hopcode, hafter, op, hop⟩ := exists_encodes_of_read hi
    obtain ⟨ops, is, rest, his, hlaid, hcode, hstops⟩ := ih
    refine ⟨op :: ops, i :: is, rest, by simpa using his, .cons hpc hop hlaid, ?_, ?_⟩
    · rw [List.flatMap_cons, Instruction.encode, List.append_assoc, ← hcode, hopcode,
        List.cons_append, ← hafter]
    · rwa [Instruction.length_flatMap_encode_cons, ← Nat.add_assoc]

end InstructionWalk

/-- A walk goes through laid-out operations and on with what follows them. -/
theorem Operation.LaidOut.go_append {pc : Nat} {ops : List Operation} {is : List Instruction}
    (h : LaidOut pc ops is) (rest : Bytes) (done : List Instruction) :
    InstructionWalk.go pc (is.flatMap Instruction.encode ++ rest) done =
      InstructionWalk.go (pc + (is.flatMap Instruction.encode).length) rest
        (is.reverse ++ done) := by
  induction h generalizing done with
  | nil pc => rfl
  | @cons pc op ops i is hpc hi hrest ih =>
    have hread := hi.read_eq (is.flatMap Instruction.encode ++ rest)
    rw [hpc] at hread
    rw [Instruction.length_flatMap_encode_cons, List.flatMap_cons, Instruction.encode,
      List.cons_append, List.cons_append, InstructionWalk.go, List.append_assoc, hread]
    simp only [List.drop_left]
    rw [ih, List.reverse_cons, List.append_assoc, List.singleton_append, Nat.add_assoc]

/-- A walk through laid-out operations goes through all of them. -/
theorem Operation.LaidOut.go_eq {pc : Nat} {ops : List Operation} {is : List Instruction}
    (h : LaidOut pc ops is) (done : List Instruction) :
    InstructionWalk.go pc (is.flatMap Instruction.encode) done = ⟨done.reverse ++ is, none⟩ := by
  have hgo := h.go_append [] done
  rw [List.append_nil] at hgo
  rw [hgo, InstructionWalk.go, List.reverse_append, List.reverse_reverse]

/-! ## Scans -/

namespace Scan

variable {pc : Nat} {ops : List Operation} {is : List Instruction} {code : Bytes}

/-- The load sites of operations at the places of instructions. -/
def sitesOf (ops : List Operation) (is : List Instruction) : List LoadSite :=
  (ops.zip is).filterMap fun (op, i) => op.loadSite? i.pc

/-- The scan of laid-out operations of `size` bytes. -/
def ofOperations (ops : List Operation) (is : List Instruction) (size : Nat) : Scan where
  loadSites := sitesOf ops is
  instructionCount := ops.length
  undefinedCount := ops.countP fun op => !op.isDefined
  endPc := size

theorem loadSites_eq (h : LaidOut pc ops is) :
    is.filterMap Instruction.loadSite? = sitesOf ops is := by
  induction h with
  | nil pc => rfl
  | cons hpc hi hrest ih =>
    rw [sitesOf, List.zip_cons_cons, List.filterMap_cons, List.filterMap_cons, hi.loadSite?_eq, ih]
    rfl

theorem counts_eq (h : LaidOut pc ops is) :
    is.length = ops.length ∧
      (is.countP fun i => !i.isDefined) = ops.countP fun op => !op.isDefined := by
  induction h with
  | nil pc => exact ⟨rfl, rfl⟩
  | cons hpc hi hrest ih =>
    rw [List.length_cons, List.length_cons, List.countP_cons, List.countP_cons, ih.1, ih.2,
      hi.isDefined_eq]
    exact ⟨rfl, rfl⟩

/-- The last instruction ends where the code ends. -/
theorem endPc_eq (h : LaidOut pc ops is) :
    (is.getLast?.elim pc fun i => i.pc + i.size) =
      pc + (is.flatMap Instruction.encode).length := by
  induction h with
  | nil pc => rfl
  | @cons pc op ops i is hpc hi hrest ih =>
    rw [Instruction.length_flatMap_encode_cons, ← Nat.add_assoc, ← ih, List.getLast?_cons]
    cases is.getLast? with
    | none => simp [hpc]
    | some last => rfl

theorem ofInstructions_eq (h : LaidOut 0 ops is) :
    ofInstructions is = ofOperations ops is (is.flatMap Instruction.encode).length := by
  have hend := endPc_eq h
  rw [Nat.zero_add] at hend
  rw [ofInstructions, ofOperations, loadSites_eq h, (counts_eq h).1, (counts_eq h).2, hend]

/-- What a scan of `code` has to do with operations. -/
structure MatchesLayout (code : Bytes) : Prop where
  /-- Laid-out operations are walked through, and the scan lists and counts them. -/
  of_layout (ops : List Operation) (is : List Instruction) (h : LaidOut 0 ops is)
    (hcode : code = is.flatMap Instruction.encode) :
    InstructionWalk.ofCode code = ⟨is, none⟩ ∧
      ofCode code = .ok (ofOperations ops is code.length)
  /-- Code that can be scanned is laid-out operations, whose instructions the walk gives, and it is
  that in one way only. -/
  to_layout (s : Scan) (h : ofCode code = .ok s) :
    ∃ ops, LaidOut 0 ops (InstructionWalk.ofCode code).instructions ∧
      code = (InstructionWalk.ofCode code).instructions.flatMap Instruction.encode ∧
      ∀ ops' is', LaidOut 0 ops' is' → code = is'.flatMap Instruction.encode →
        ops' = ops ∧ is' = (InstructionWalk.ofCode code).instructions
  /-- The number of operand bytes is found without a read beyond the end of the code. -/
  counts_inside (pc : Nat) (opcode : UInt8) (after : Bytes) :
    Instruction.checkedOperandCount pc opcode after =
      some (Instruction.operandCount pc opcode after)
  /-- The load site of an instruction is found without a read beyond its operands. -/
  sites_inside (i : Instruction) (hi : i ∈ (InstructionWalk.ofCode code).instructions) :
    i.checkedLoadSite = some i.loadSite?

theorem ofCode_eq (h : (InstructionWalk.ofCode code).failure = none) :
    ofCode code = .ok (ofInstructions (InstructionWalk.ofCode code).instructions) := by
  rw [ofCode]
  simp only [h]

theorem failure_eq_none_of_ofCode {s : Scan} (h : ofCode code = .ok s) :
    (InstructionWalk.ofCode code).failure = none := by
  rw [ofCode] at h
  cases hfailure : (InstructionWalk.ofCode code).failure with
  | none => rfl
  | some e => simp [hfailure] at h

theorem ofCode_walk (h : LaidOut 0 ops is) :
    InstructionWalk.ofCode (is.flatMap Instruction.encode) = ⟨is, none⟩ :=
  h.go_eq []

/-- Any code array: the walk stops where the laid-out operations end, and goes on to the end of the
code exactly when the scan succeeds. -/
theorem matchesLayout (code : Bytes) : MatchesLayout code := by
  obtain ⟨ops, is, rest, his, hlaid, hcode, hstops⟩ := InstructionWalk.go_spec 0 code []
  change (InstructionWalk.ofCode code).instructions = is at his
  change InstructionWalk.Stops _ rest (InstructionWalk.ofCode code).failure at hstops
  refine ⟨?_, ?_, Instruction.checkedOperandCount_eq, ?_⟩
  · intro ops' is' h hcode'
    have hwalk := ofCode_walk h
    rw [← hcode'] at hwalk
    refine ⟨hwalk, ?_⟩
    rw [ofCode_eq (by rw [hwalk]), hwalk, ofInstructions_eq h, ← hcode']
  · intro s h
    rw [failure_eq_none_of_ofCode h] at hstops
    obtain rfl : rest = [] := hstops
    rw [List.append_nil] at hcode
    rw [his]
    refine ⟨ops, hlaid, hcode, fun ops' is' h' hcode' => ?_⟩
    have hwalk := ofCode_walk h'
    rw [← hcode'] at hwalk
    obtain rfl : is' = is := by rw [← his, hwalk]
    exact ⟨h'.unique hlaid, rfl⟩
  · intro i hi
    rw [his] at hi
    obtain ⟨op, hop⟩ := hlaid.exists_encodes hi
    exact Instruction.checkedLoadSite_eq hop

/-- **Scanning is reading a layout.**  Operations in any order can be laid out, and code is scanned
with success when it is operations laid out one after the other; the scan is that of these
operations. -/
theorem scan_matchesLayout :
    (∀ ops : List Operation, ∃ is, LaidOut 0 ops is) ∧ ∀ code, MatchesLayout code :=
  ⟨fun ops => exists_laidOut 0 ops, matchesLayout⟩

/-! ## A code array with all kinds of operations -/

/-- An `ldc`, a wide increment, a table switch, an undefined opcode, an `ldc_w`, a lookup switch
without pairs and a return. -/
def sample : List Operation :=
  [.fixed 0x12 [0x05] (by decide), .wide 0x84 [0x00, 0x01, 0x00, 0x05] (by decide),
   .tableSwitch 16 (-1) 0 [7, 8] (by decide) (by decide), .undefined 0xCB (by decide),
   .fixed 0x13 [0x01, 0x02] (by decide), .lookupSwitch 16 [] (by decide),
   .fixed 0xB1 [] (by decide)]

/-- The operations of `sample` at their places. The padding looks like loads. -/
def samplePlaced : List Instruction :=
  [⟨0, 0x12, [0x05]⟩, ⟨2, 0xC4, [0x84, 0x00, 0x01, 0x00, 0x05]⟩,
   ⟨8, 0xAA, [0x12, 0x12, 0x13, 0, 0, 0, 16, 0xFF, 0xFF, 0xFF, 0xFF, 0, 0, 0, 0, 0, 0, 0, 7,
     0, 0, 0, 8]⟩,
   ⟨32, 0xCB, []⟩, ⟨33, 0x13, [0x01, 0x02]⟩,
   ⟨36, 0xAB, [0x12, 0x13, 0x14, 0, 0, 0, 16, 0, 0, 0, 0]⟩, ⟨48, 0xB1, []⟩]

theorem sample_laidOut : LaidOut 0 sample samplePlaced :=
  .cons rfl ⟨rfl, [], rfl, rfl⟩ <| .cons rfl ⟨rfl, [], rfl, rfl⟩ <|
  .cons rfl ⟨rfl, [0x12, 0x12, 0x13], ⟨by decide, by decide⟩, by decide⟩ <|
  .cons rfl ⟨rfl, [], rfl, rfl⟩ <| .cons rfl ⟨rfl, [], rfl, rfl⟩ <|
  .cons rfl ⟨rfl, [0x12, 0x13, 0x14], ⟨by decide, by decide⟩, by decide⟩ <|
  .cons rfl ⟨rfl, [], rfl, rfl⟩ <| .nil _

theorem scan_matchesLayout_sample :
    ofCode (samplePlaced.flatMap Instruction.encode) =
        .ok ⟨[⟨.ldc, 5, 0⟩, ⟨.ldcW, 0x0102, 33⟩], 7, 1, 49⟩ ∧
      ∃ ops, LaidOut 0 ops samplePlaced := by
  have hscan := ((scan_matchesLayout.2 _).of_layout sample samplePlaced sample_laidOut rfl).2
  exact ⟨hscan, sample, sample_laidOut⟩

end Scan
end ClassLiterals
