import ClassLiterals.Bytecode.Instruction

/-!
# Load sites

A scan of a code array lists its load sites, the instructions that load a constant of the pool, and
counts the instructions it passes.
-/

namespace ClassLiterals

/-- The instructions that load a constant. -/
inductive LoadKind where
  | ldc
  | ldcW
  | ldc2W
  deriving DecidableEq, Repr

namespace LoadKind

/-- The load instruction with the given opcode. -/
def ofOpcode? (opcode : UInt8) : Option LoadKind :=
  if opcode = Opcode.ldc then some ldc
  else if opcode = Opcode.ldcW then some ldcW
  else if opcode = Opcode.ldc2W then some ldc2W
  else none

/-- Whether the instruction may load a string; `ldc2_w` loads constants of eight bytes only. -/
def mayLoadString : LoadKind → Bool
  | ldc2W => false
  | _ => true

/-- The name of the instruction. -/
def mnemonic : LoadKind → String
  | ldc => "ldc"
  | ldcW => "ldc_w"
  | ldc2W => "ldc2_w"

end LoadKind

/-- A place in a code array where a constant is loaded. -/
structure LoadSite where
  kind : LoadKind
  /-- The pool index of the constant. -/
  index : UInt16
  pc : Nat
  deriving DecidableEq, Repr

/-- The load site that an instruction is. Its operands are the index, of one or two bytes. -/
def Instruction.loadSite? (i : Instruction) : Option LoadSite :=
  (LoadKind.ofOpcode? i.opcode).map fun kind => ⟨kind, UInt16.ofNat i.operands.toNat, i.pc⟩

/-- What a pass over a code array found. -/
structure Scan where
  loadSites : List LoadSite
  instructionCount : Nat
  undefinedCount : Nat
  /-- The position after the last instruction. -/
  endPc : Nat
  deriving DecidableEq, Repr

namespace Scan

/-- The scan of a list of instructions. -/
def ofInstructions (is : List Instruction) : Scan where
  loadSites := is.filterMap Instruction.loadSite?
  instructionCount := is.length
  undefinedCount := is.countP fun i => !i.isDefined
  endPc := is.getLast?.elim 0 fun i => i.pc + i.size

/-- Scans a code array. -/
def ofCode (code : Bytes) : Except ScanError Scan :=
  let walk := InstructionWalk.ofCode code
  match walk.failure with
  | some e => .error e
  | none => .ok (ofInstructions walk.instructions)

end Scan

end ClassLiterals
