import ClassLiterals.Proofs.Bytecode.Scanning

/-!
# Code that is cut short

A code array that can be scanned falls into instructions. Cut off at a boundary between two of them,
it can be scanned as well, and the scan is the part of the whole scan before the cut. Cut off inside
an instruction, be it in the padding of a switch, in its bounds, in its table or behind the opcode
`wide`, it cannot: the scan reports that the instruction is truncated, and nothing else. Counts that
were in order in the whole code are in order in what is left of it.

The instructions are also looked at as they are asked for, one call after the other: the calls give
the instructions before the cut, then the error, then nothing any more.

Main results: `Instruction.read_take` and `Scan.ofCode_cut`.
-/

namespace ClassLiterals

open Operation

/-! ## Cutting off an instruction -/

namespace Instruction

variable {pc : Nat} {opcode : UInt8} {after : Bytes} {i : Instruction} {m count : Nat}

theorem size_pos (i : Instruction) : 0 < i.size := by
  rw [size]
  omega

/-- A number that ends before the cut is read as before. -/
theorem signedAt_take {start : Nat} (h : start + 4 ≤ m) (bs : Bytes) :
    signedAt (bs.take m) start = signedAt bs start := by
  have hslice : Bytes.slice (bs.take m) start (start + 4) = bs.slice start (start + 4) := by
    rw [Bytes.slice, Bytes.slice, List.drop_take, List.take_take]
    congr 1
    omega
  rw [signedAt, signedAt, hslice]

/-- Fewer bytes than an instruction needs either tell the same need, or the fields that it depends
on are cut off themselves. -/
theorem operandCount_take (h : operandCount pc opcode after = .ok count) (hm : m < count)
    (hle : m ≤ after.length) :
    operandCount pc opcode (after.take m) = .ok count ∨
      ∃ needed, m < needed ∧
        operandCount pc opcode (after.take m) = .error (.truncated pc opcode needed m) := by
  have hlen : (after.take m).length = m := List.length_take_of_le hle
  rw [operandCount.eq_def] at h ⊢
  cases hform : OperandForm.ofOpcode opcode with
  | fixed n =>
    simp only [hform] at h ⊢
    exact .inl h
  | undefined =>
    simp only [hform] at h ⊢
    exact .inl h
  | wide =>
    simp only [hform] at h ⊢
    cases m with
    | zero => exact .inr ⟨1, Nat.zero_lt_one, rfl⟩
    | succ m =>
      cases after with
      | nil => cases h
      | cons modified after => exact .inl h
  | tableSwitch =>
    simp only [hform, Bytes.hasAtLeast_iff, hlen] at h ⊢
    by_cases hheader : switchPadding pc + 12 ≤ m
    · rw [if_pos (hheader.trans hle)] at h
      rw [if_pos hheader, signedAt_take (by omega), signedAt_take (by omega)]
      exact .inl h
    · rw [if_neg hheader]
      exact .inr ⟨_, Nat.lt_of_not_le hheader, rfl⟩
  | lookupSwitch =>
    simp only [hform, Bytes.hasAtLeast_iff, hlen] at h ⊢
    by_cases hheader : switchPadding pc + 8 ≤ m
    · rw [if_pos (hheader.trans hle)] at h
      rw [if_pos hheader, signedAt_take (by omega)]
      exact .inl h
    · rw [if_neg hheader]
      exact .inr ⟨_, Nat.lt_of_not_le hheader, rfl⟩

/-- **An instruction that is cut off is truncated**, wherever in its operands the cut falls. -/
theorem read_take (h : read pc opcode after = .ok i) (hm : m < i.operands.length) :
    ∃ needed, m < needed ∧
      read pc opcode (after.take m) = .error (.truncated pc opcode needed m) := by
  rw [read] at h
  cases hcount : operandCount pc opcode after with
  | error e => simp [hcount] at h
  | ok count =>
    rw [hcount] at h
    simp only at h
    split_ifs at h with henough
    cases h
    rw [Bytes.hasAtLeast_iff] at henough
    simp only [List.length_take_of_le henough] at hm
    have hlen : (after.take m).length = m := List.length_take_of_le (by omega)
    rcases operandCount_take hcount hm (by omega) with hsame | ⟨needed, hlt, herror⟩
    · refine ⟨count, hm, ?_⟩
      rw [read, hsame]
      simp only [Bytes.hasAtLeast_iff, hlen, if_neg (Nat.not_le.2 hm)]
    · refine ⟨needed, hlt, ?_⟩
      rw [read, herror]

end Instruction

/-! ## Asking for one instruction after the other -/

/-- A walk under way: the place of the next instruction, the code from there on, and whether an
instruction could not be read. -/
structure InstructionCursor where
  pc : Nat
  code : Bytes
  failed : Bool
  deriving DecidableEq, Repr

namespace InstructionCursor

/-- The start of a walk through a code array. -/
def start (code : Bytes) : InstructionCursor := ⟨0, code, false⟩

/-- The answer to a call for the next instruction, and where the walk stands then. -/
def next (s : InstructionCursor) : Option (Except ScanError Instruction) × InstructionCursor :=
  if s.failed then (none, s)
  else
    match s.code with
    | [] => (none, s)
    | opcode :: after =>
      match Instruction.read s.pc opcode after with
      | .error e => (some (.error e), { s with failed := true })
      | .ok i => (some (.ok i), ⟨s.pc + i.size, after.drop i.operands.length, false⟩)

/-- The answer to the call after `n` others. -/
def answer (s : InstructionCursor) : (n : Nat) → Option (Except ScanError Instruction)
  | 0 => s.next.1
  | n + 1 => s.next.2.answer n

/-- The calls for the instructions of a code array are answered with `items`, and with nothing
afterwards. -/
def Yields (code : Bytes) (items : List (Except ScanError Instruction)) : Prop :=
  ∀ n, (start code).answer n = items[n]?

/-- A walk that gives no instruction stands still. -/
theorem answer_of_next_eq {s : InstructionCursor} (h : s.next = (none, s)) (n : Nat) :
    s.answer n = none := by
  induction n with
  | zero => rw [answer, h]
  | succ n ih => rw [answer, h, ih]

end InstructionCursor

namespace InstructionWalk

/-- What the calls for instructions are answered with, up to the error. -/
def answers (w : InstructionWalk) : List (Except ScanError Instruction) :=
  w.instructions.map .ok ++ w.failure.toList.map .error

/-- What was read before stays in front of what is read. -/
theorem go_append (pc : Nat) (code : Bytes) (done before : List Instruction) :
    go pc code (done ++ before) =
      ⟨before.reverse ++ (go pc code done).instructions, (go pc code done).failure⟩ := by
  fun_induction go pc code done with
  | case1 pc done => simp [go]
  | case2 pc done opcode after e he => simp [go, he]
  | case3 pc done opcode after i hi ih =>
    rw [go, hi]
    exact ih

/-- A walk gives the first instruction and goes on behind it. -/
theorem answers_go_cons {pc : Nat} {opcode : UInt8} {after : Bytes} {i : Instruction}
    (h : Instruction.read pc opcode after = .ok i) : (go pc (opcode :: after) []).answers =
      .ok i :: (go (pc + i.size) (after.drop i.operands.length) []).answers := by
  have hgo := go_append (pc + i.size) (after.drop i.operands.length) [] [i]
  rw [go, h]
  simp only
  rw [List.nil_append] at hgo
  rw [hgo]
  rfl

/-- The calls are answered with what the walk gives, and with nothing afterwards. -/
theorem answer_eq_getElem? (pc : Nat) (code : Bytes) (n : Nat) :
    InstructionCursor.answer ⟨pc, code, false⟩ n = (go pc code []).answers[n]? := by
  induction n generalizing pc code with
  | zero =>
    cases code with
    | nil => simp [InstructionCursor.answer, InstructionCursor.next, go, answers]
    | cons opcode after =>
      cases hread : Instruction.read pc opcode after with
      | error e => simp [InstructionCursor.answer, InstructionCursor.next, go, answers, hread]
      | ok i =>
        rw [answers_go_cons hread]
        simp [InstructionCursor.answer, InstructionCursor.next, hread]
  | succ n ih =>
    cases code with
    | nil =>
      rw [InstructionCursor.answer_of_next_eq rfl, go]
      rfl
    | cons opcode after =>
      cases hread : Instruction.read pc opcode after with
      | error e =>
        rw [InstructionCursor.answer]
        simp only [InstructionCursor.next, hread]
        rw [InstructionCursor.answer_of_next_eq rfl]
        simp [go, hread, answers]
      | ok i =>
        rw [answers_go_cons hread, InstructionCursor.answer]
        simp only [InstructionCursor.next, hread]
        exact ih _ _

/-- The calls for instructions are answered as the walk through the whole code says. -/
theorem yields_ofCode (code : Bytes) : InstructionCursor.Yields code (ofCode code).answers :=
  answer_eq_getElem? 0 code

end InstructionWalk

/-! ## Layouts in two parts -/

namespace Operation.LaidOut

variable {pc : Nat} {ops : List Operation} {is js : List Instruction} {i : Instruction}

/-- The last part of laid-out operations starts where the first part ends. -/
theorem split (h : LaidOut pc ops (is ++ js)) : ∃ ops₁ ops₂, ops = ops₁ ++ ops₂ ∧
    LaidOut pc ops₁ is ∧ LaidOut (pc + (is.flatMap Instruction.encode).length) ops₂ js := by
  induction is generalizing pc ops with
  | nil => exact ⟨[], ops, rfl, .nil pc, h⟩
  | cons i is ih =>
    cases h with
    | @cons _ op ops _ _ hpc hi hrest =>
      obtain ⟨ops₁, ops₂, rfl, hfirst, hsecond⟩ := ih hrest
      refine ⟨op :: ops₁, ops₂, rfl, .cons hpc hi hfirst, ?_⟩
      rwa [Instruction.length_flatMap_encode_cons, ← Nat.add_assoc]

/-- Every instruction stands between the two ends of the layout. -/
theorem pc_bounds (h : LaidOut pc ops is) (hi : i ∈ is) :
    pc ≤ i.pc ∧ i.pc + i.size ≤ pc + (is.flatMap Instruction.encode).length := by
  induction h with
  | nil pc => exact absurd hi List.not_mem_nil
  | @cons pc op ops j is hpc hj hrest ih =>
    rw [Instruction.length_flatMap_encode_cons]
    rcases List.mem_cons.1 hi with rfl | hi
    · omega
    · have := ih hi
      omega

/-- The instructions of the first part are those before the place where it ends. -/
theorem filter_pc_lt (h : LaidOut pc ops (is ++ js)) :
    (is ++ js).filter (fun i => i.pc < pc + (is.flatMap Instruction.encode).length) = is := by
  obtain ⟨ops₁, ops₂, -, hfirst, hsecond⟩ := h.split
  have hbefore : is.filter (fun i => i.pc < pc + (is.flatMap Instruction.encode).length) = is := by
    rw [List.filter_eq_self]
    intro i hi
    have hbounds := hfirst.pc_bounds hi
    have hpos := i.size_pos
    exact decide_eq_true (by omega)
  have hafter : js.filter (fun i => i.pc < pc + (is.flatMap Instruction.encode).length) = [] := by
    rw [List.filter_eq_nil_iff]
    intro i hi
    have hbounds := hsecond.pc_bounds hi
    simpa using hbounds.1
  rw [List.filter_append, hbefore, hafter, List.append_nil]

end Operation.LaidOut

/-- A cut through instructions falls between two of them, or inside of one, behind its opcode and
before the end of its operands. -/
theorem Instruction.exists_cut {is : List Instruction} {n : Nat}
    (h : n ≤ (is.flatMap Instruction.encode).length) :
    (∃ before after, is = before ++ after ∧ n = (before.flatMap Instruction.encode).length) ∨
      ∃ before i after m, is = before ++ i :: after ∧ m < i.operands.length ∧
        n = (before.flatMap Instruction.encode).length + (1 + m) := by
  induction is generalizing n with
  | nil => exact .inl ⟨[], [], rfl, Nat.le_zero.1 h⟩
  | cons i is ih =>
    rw [Instruction.length_flatMap_encode_cons] at h
    by_cases hzero : n = 0
    · exact .inl ⟨[], i :: is, rfl, hzero⟩
    · by_cases hinside : n < i.size
      · refine .inr ⟨[], i, is, n - 1, rfl, ?_, ?_⟩
        · rw [Instruction.size] at hinside
          omega
        · rw [List.flatMap_nil, List.length_nil]
          omega
      · rcases ih (n := n - i.size) (by omega) with ⟨before, after, rfl, hn⟩ |
          ⟨before, j, after, m, rfl, hm, hn⟩
        · refine .inl ⟨i :: before, after, rfl, ?_⟩
          rw [Instruction.length_flatMap_encode_cons]
          omega
        · refine .inr ⟨i :: before, j, after, m, rfl, hm, ?_⟩
          rw [Instruction.length_flatMap_encode_cons]
          omega

/-! ## Boundaries -/

namespace Scan

variable {ops : List Operation} {is before after : List Instruction} {i : Instruction} {n m : Nat}

/-- A place where an instruction of the code starts, or its end. -/
def IsBoundary (code : Bytes) (n : Nat) : Prop :=
  n = 0 ∨ (∃ i ∈ (InstructionWalk.ofCode code).instructions, i.pc = n) ∨ n = code.length

theorem isBoundary_iff (h : LaidOut 0 ops is) : IsBoundary (is.flatMap Instruction.encode) n ↔
    n = 0 ∨ (∃ i ∈ is, i.pc = n) ∨ n = (is.flatMap Instruction.encode).length := by
  rw [IsBoundary, ofCode_walk h]

/-- Between two parts of the instructions there is a boundary. -/
theorem isBoundary_length (h : LaidOut 0 ops (before ++ after)) :
    IsBoundary ((before ++ after).flatMap Instruction.encode)
      (before.flatMap Instruction.encode).length := by
  rw [isBoundary_iff h]
  cases after with
  | nil => exact .inr (.inr (by rw [List.append_nil]))
  | cons i after =>
    obtain ⟨-, ops₂, -, -, hsecond⟩ := h.split
    cases hsecond with
    | cons hpc _ _ => exact .inr (.inl ⟨i, by simp, by rw [hpc, Nat.zero_add]⟩)

/-- Inside of an instruction there is no boundary. -/
theorem IsBoundary.outside (h : LaidOut 0 ops (before ++ i :: after))
    (hn : IsBoundary ((before ++ i :: after).flatMap Instruction.encode) n) :
    n ≤ (before.flatMap Instruction.encode).length ∨
      (before.flatMap Instruction.encode).length + i.size ≤ n := by
  rw [isBoundary_iff h] at hn
  obtain ⟨ops₁, ops₂, -, hfirst, hsecond⟩ := h.split
  rcases hn with rfl | ⟨j, hj, rfl⟩ | rfl
  · exact .inl (Nat.zero_le _)
  · rcases List.mem_append.1 hj with hj | hj
    · have hbounds := hfirst.pc_bounds hj
      exact .inl (by omega)
    · cases hsecond with
      | cons hpc _ hrest =>
        rcases List.mem_cons.1 hj with rfl | hj
        · exact .inl (by omega)
        · have hbounds := hrest.pc_bounds hj
          exact .inr (by omega)
  · right
    rw [List.flatMap_append, List.length_append, Instruction.length_flatMap_encode_cons]
    omega

/-! ## Scans of code that is cut short -/

/-- The part of a scan before position `n`, when the code consists of the instructions. -/
def upTo (s : Scan) (is : List Instruction) (n : Nat) : Scan where
  loadSites := s.loadSites.filter fun site => site.pc < n
  instructionCount := is.countP fun i => i.pc < n
  undefinedCount := is.countP fun i => !i.isDefined && i.pc < n
  endPc := n

theorem pc_of_loadSite? {site : LoadSite} (h : i.loadSite? = some site) : site.pc = i.pc := by
  obtain ⟨kind, -, rfl⟩ := Option.map_eq_some_iff.1 h
  rfl

/-- The loads before a place are those of the instructions before it. -/
theorem filter_loadSites (is : List Instruction) (n : Nat) :
    (is.filterMap Instruction.loadSite?).filter (fun site => site.pc < n) =
      (is.filter fun i => i.pc < n).filterMap Instruction.loadSite? := by
  rw [List.filter_filterMap, List.filterMap_filter]
  refine List.filterMap_congr fun i _ => ?_
  cases hsite : i.loadSite? with
  | none => simp
  | some site => rw [Option.filter_some, pc_of_loadSite? hsite]

/-- The scan of the first part of the instructions is the part of the whole scan before its end. -/
theorem ofInstructions_eq_upTo (h : LaidOut 0 ops (before ++ after)) :
    ofInstructions before = (ofInstructions (before ++ after)).upTo (before ++ after)
      (before.flatMap Instruction.encode).length := by
  obtain ⟨ops₁, -, -, hfirst, -⟩ := h.split
  have hfilter := h.filter_pc_lt
  have hend := endPc_eq hfirst
  rw [Nat.zero_add] at hfilter hend
  have hsites := filter_loadSites (before ++ after) (before.flatMap Instruction.encode).length
  have hcount : (before ++ after).countP
      (fun i => i.pc < (before.flatMap Instruction.encode).length) = before.length := by
    rw [List.countP_eq_length_filter, hfilter]
  have hundefined : (before ++ after).countP
      (fun i => !i.isDefined && i.pc < (before.flatMap Instruction.encode).length) =
        before.countP fun i => !i.isDefined := by
    rw [← List.countP_filter, hfilter]
  rw [hfilter] at hsites
  rw [upTo, ofInstructions, ofInstructions]
  simp only [hsites, hcount, hundefined, hend]

open InstructionCursor in
/-- What comes of cutting a code array with the scan `s` off at position `n`. -/
structure Cut (code : Bytes) (s : Scan) (n : Nat) : Prop where
  isOk_iff : (∃ t, ofCode (code.take n) = .ok t) ↔ IsBoundary code n
  /-- At a boundary the part before it is scanned. -/
  of_boundary (h : IsBoundary code n) :
    ofCode (code.take n) = .ok (s.upTo (InstructionWalk.ofCode code).instructions n) ∧
      Yields (code.take n)
        (((InstructionWalk.ofCode code).instructions.filter fun i => i.pc < n).map .ok)
  /-- Elsewhere the instruction at the last boundary is truncated. The instructions before it are
  yielded, then the error. -/
  of_inside (h : ¬ IsBoundary code n) : ∃ pc opcode needed,
    IsBoundary code pc ∧ pc < n ∧ (∀ k, IsBoundary code k → k < n → k ≤ pc) ∧
      code[pc]? = some opcode ∧ n - pc - 1 < needed ∧
      ofCode (code.take n) = .error (.truncated pc opcode needed (n - pc - 1)) ∧
      Yields (code.take n)
        (((InstructionWalk.ofCode code).instructions.filter fun i => i.pc < pc).map .ok ++
          [.error (.truncated pc opcode needed (n - pc - 1))])

/-- Code that is cut off between two instructions. -/
theorem cut_between (h : LaidOut 0 ops (before ++ after)) :
    Cut ((before ++ after).flatMap Instruction.encode) (ofInstructions (before ++ after))
      (before.flatMap Instruction.encode).length := by
  have hboundary := isBoundary_length h
  have htake : ((before ++ after).flatMap Instruction.encode).take
      (before.flatMap Instruction.encode).length = before.flatMap Instruction.encode := by
    rw [List.flatMap_append, List.take_left]
  obtain ⟨ops₁, -, -, hfirst, -⟩ := h.split
  have hwalk := ofCode_walk hfirst
  have hscan : ofCode (before.flatMap Instruction.encode) = .ok (ofInstructions before) := by
    rw [ofCode_eq (by rw [hwalk]), hwalk]
  have hfilter := h.filter_pc_lt
  rw [Nat.zero_add] at hfilter
  refine ⟨?_, ?_, ?_⟩
  · rw [htake]
    exact iff_of_true ⟨_, hscan⟩ hboundary
  · intro _
    have hyields := InstructionWalk.yields_ofCode (before.flatMap Instruction.encode)
    rw [hwalk, InstructionWalk.answers, Option.toList_none, List.map_nil,
      List.append_nil] at hyields
    rw [htake, ofCode_walk h, hfilter, hscan, ofInstructions_eq_upTo h]
    exact ⟨rfl, hyields⟩
  · intro hnot
    exact absurd hboundary hnot

/-- The bytes of instructions, cut off inside of one of them. -/
theorem take_inside (hm : m ≤ i.operands.length) :
    ((before ++ i :: after).flatMap Instruction.encode).take
        ((before.flatMap Instruction.encode).length + (1 + m)) =
      before.flatMap Instruction.encode ++ i.opcode :: i.operands.take m := by
  rw [List.flatMap_append, List.take_length_add_append, List.flatMap_cons, Instruction.encode,
    Nat.add_comm 1, List.cons_append, List.take_succ_cons, List.take_append_of_le_length hm]

/-- A walk through instructions of which the last one is cut off. -/
theorem walk_inside (h : LaidOut 0 ops (before ++ i :: after)) (hm : m < i.operands.length) :
    ∃ needed, m < needed ∧
      InstructionWalk.ofCode (before.flatMap Instruction.encode ++ i.opcode :: i.operands.take m) =
        ⟨before,
          some (.truncated (before.flatMap Instruction.encode).length i.opcode needed m)⟩ := by
  obtain ⟨ops₁, ops₂, -, hfirst, hsecond⟩ := h.split
  rw [Nat.zero_add] at hsecond
  cases hsecond with
  | cons hpc hi _ =>
    have hread := hi.read_eq []
    rw [List.append_nil, hpc] at hread
    obtain ⟨needed, hlt, herror⟩ := Instruction.read_take hread hm
    refine ⟨needed, hlt, ?_⟩
    rw [InstructionWalk.ofCode, hfirst.go_append, Nat.zero_add, InstructionWalk.go, herror]
    simp only [List.append_nil, List.reverse_reverse]

/-- Code that is cut off inside of an instruction. -/
theorem cut_inside (h : LaidOut 0 ops (before ++ i :: after)) (hm : m < i.operands.length) :
    Cut ((before ++ i :: after).flatMap Instruction.encode) (ofInstructions (before ++ i :: after))
      ((before.flatMap Instruction.encode).length + (1 + m)) := by
  obtain ⟨needed, hlt, hwalk⟩ := walk_inside h hm
  have hsize : i.size = 1 + i.operands.length := rfl
  have hnot : ¬ IsBoundary ((before ++ i :: after).flatMap Instruction.encode)
      ((before.flatMap Instruction.encode).length + (1 + m)) := by
    intro hboundary
    have := hboundary.outside h
    omega
  have havailable : (before.flatMap Instruction.encode).length + (1 + m) -
      (before.flatMap Instruction.encode).length - 1 = m := by omega
  have hscan : ofCode (before.flatMap Instruction.encode ++ i.opcode :: i.operands.take m) =
      .error (.truncated (before.flatMap Instruction.encode).length i.opcode needed m) := by
    rw [ofCode, hwalk]
  have hyields := InstructionWalk.yields_ofCode
    (before.flatMap Instruction.encode ++ i.opcode :: i.operands.take m)
  have hfilter := h.filter_pc_lt
  rw [hwalk] at hyields
  rw [Nat.zero_add] at hfilter
  refine ⟨?_, fun hboundary => absurd hboundary hnot, fun _ => ?_⟩
  · rw [take_inside (Nat.le_of_lt hm), hscan]
    refine iff_of_false ?_ hnot
    rintro ⟨t, ht⟩
    cases ht
  · refine ⟨(before.flatMap Instruction.encode).length, i.opcode, needed, isBoundary_length h,
      by omega, ?_, ?_, ?_, ?_, ?_⟩
    · intro k hk hkn
      have := hk.outside h
      omega
    · rw [List.flatMap_append, List.getElem?_append_right (Nat.le_refl _), Nat.sub_self]
      rfl
    · rwa [havailable]
    · rw [take_inside (Nat.le_of_lt hm), havailable, hscan]
    · rw [take_inside (Nat.le_of_lt hm), havailable, ofCode_walk h, hfilter]
      exact hyields

/-- **Cutting code short.**  A code array that can be scanned, cut off anywhere: at a boundary its
first part is scanned, and elsewhere the instruction that is cut is truncated. -/
theorem ofCode_cut {code : Bytes} {s : Scan} (h : ofCode code = .ok s) (hn : n ≤ code.length) :
    Cut code s n := by
  obtain ⟨ops, hlaid, hcode, -⟩ := (matchesLayout code).to_layout s h
  obtain rfl : ofInstructions (InstructionWalk.ofCode code).instructions = s := by
    rw [ofCode_eq (failure_eq_none_of_ofCode h)] at h
    exact Except.ok.inj h
  generalize (InstructionWalk.ofCode code).instructions = is at hlaid hcode ⊢
  subst hcode
  rcases Instruction.exists_cut hn with
    ⟨before, after, rfl, rfl⟩ | ⟨before, i, after, m, rfl, hm, rfl⟩
  · exact cut_between hlaid
  · exact cut_inside hlaid hm

/-- The sample code, cut off in front of the `ldc_w` and in the padding of the table switch. -/
theorem ofCode_cut_sample :
    (ofCode (samplePlaced.flatMap Instruction.encode) =
        .ok ⟨[⟨.ldc, 5, 0⟩, ⟨.ldcW, 0x0102, 33⟩], 7, 1, 49⟩ ∧
      10 ≤ (samplePlaced.flatMap Instruction.encode).length ∧
      33 ≤ (samplePlaced.flatMap Instruction.encode).length) ∧
      ofCode ((samplePlaced.flatMap Instruction.encode).take 33) =
        .ok ⟨[⟨.ldc, 5, 0⟩], 4, 1, 33⟩ ∧
      (∃ pc opcode needed, pc < 10 ∧
        ofCode ((samplePlaced.flatMap Instruction.encode).take 10) =
          .error (.truncated pc opcode needed (10 - pc - 1))) ∧
      ofCode ((samplePlaced.flatMap Instruction.encode).take 10) =
        .error (.truncated 8 0xAA 15 1) := by
  have hscan := ((matchesLayout _).of_layout sample samplePlaced sample_laidOut rfl).2
  have hten : 10 ≤ (samplePlaced.flatMap Instruction.encode).length := by decide
  have hend : 33 ≤ (samplePlaced.flatMap Instruction.encode).length := by decide
  have hboundary : IsBoundary (samplePlaced.flatMap Instruction.encode) 33 :=
    (isBoundary_iff sample_laidOut).2 (by decide)
  have hinside : ¬ IsBoundary (samplePlaced.flatMap Instruction.encode) 10 := by
    rw [isBoundary_iff sample_laidOut]
    decide
  obtain ⟨hpart, -⟩ := (ofCode_cut hscan hend).of_boundary hboundary
  obtain ⟨pc, opcode, needed, -, hlt, -, -, -, herror, -⟩ :=
    (ofCode_cut hscan hten).of_inside hinside
  rw [ofCode_walk sample_laidOut] at hpart
  exact ⟨⟨hscan, hten, hend⟩, hpart, ⟨pc, opcode, needed, hlt, herror⟩, by decide +kernel⟩

end Scan

end ClassLiterals
