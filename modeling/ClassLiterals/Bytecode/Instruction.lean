import ClassLiterals.Bytes.Basic
import ClassLiterals.Text.Numeral

/-!
# Instructions

A code array is a sequence of instructions, each an opcode followed by its operand bytes. How many
operand bytes there are depends on the opcode, for the two switches also on the position of the
opcode and on the operands themselves, and after the opcode `wide` on the opcode that it modifies.

An opcode outside the instruction set counts as an instruction without operands.
-/

namespace ClassLiterals

/-- Why a code array is no sequence of instructions. -/
inductive ScanError where
  /-- The instruction at `pc` needs `needed` operand bytes and the code has `available` left. -/
  | truncated (pc : Nat) (opcode : UInt8) (needed available : Nat)
  /-- The table switch at `pc` has a range that ends before it starts. -/
  | badTableSwitch (pc : Nat) (low high : Int32)
  /-- The lookup switch at `pc` has a negative number of pairs. -/
  | badLookupSwitch (pc : Nat) (pairs : Int32)
  deriving DecidableEq, Repr

open Text in
/-- The message for a failed scan. -/
def ScanError.message : ScanError → String
  | truncated pc opcode needed available =>
    "Opcode 0x" ++ padLeft 2 '0' (upperHex opcode.toNat) ++ " at pc " ++ decimal pc ++ " needs " ++
      decimal needed ++ " operand bytes, " ++ decimal available ++ " left"
  | badTableSwitch pc low high =>
    "Invalid tableswitch range " ++ signedDecimal low.toInt ++ "..=" ++
      signedDecimal high.toInt ++ " at pc " ++ decimal pc
  | badLookupSwitch pc pairs =>
    "Invalid lookupswitch pair count " ++ signedDecimal pairs.toInt ++ " at pc " ++ decimal pc

namespace Opcode

def ldc : UInt8 := 0x12
def ldcW : UInt8 := 0x13
def ldc2W : UInt8 := 0x14
def iinc : UInt8 := 0x84
def tableSwitch : UInt8 := 0xAA
def lookupSwitch : UInt8 := 0xAB
def wide : UInt8 := 0xC4

end Opcode

/-- What follows an opcode. -/
inductive OperandForm where
  /-- A fixed number of bytes. -/
  | fixed (count : Nat)
  /-- Padding, a default, the bounds of a range and an offset for each of its values. -/
  | tableSwitch
  /-- Padding, a default, a number of pairs and the pairs. -/
  | lookupSwitch
  /-- Another opcode with operands of twice their width. -/
  | wide
  /-- Nothing: the opcode is outside the instruction set. -/
  | undefined
  deriving DecidableEq, Repr

namespace OperandForm

/-- The forms of all opcodes, each for the opcodes up to a last one. -/
def table : List (Nat × OperandForm) :=
  [(0x0F, fixed 0), (0x10, fixed 1), (0x11, fixed 2), (0x12, fixed 1), (0x14, fixed 2),
   (0x19, fixed 1), (0x35, fixed 0), (0x3A, fixed 1), (0x83, fixed 0), (0x84, fixed 2),
   (0x98, fixed 0), (0xA8, fixed 2), (0xA9, fixed 1), (0xAA, tableSwitch), (0xAB, lookupSwitch),
   (0xB1, fixed 0), (0xB8, fixed 2), (0xBA, fixed 4), (0xBB, fixed 2), (0xBC, fixed 1),
   (0xBD, fixed 2), (0xBF, fixed 0), (0xC1, fixed 2), (0xC3, fixed 0), (0xC4, wide),
   (0xC5, fixed 3), (0xC7, fixed 2), (0xC9, fixed 4), (0xCA, fixed 0), (0xFD, undefined),
   (0xFF, fixed 0)]

/-- The form of an opcode. -/
def ofOpcode (opcode : UInt8) : OperandForm :=
  match table.find? fun (last, _) => opcode.toNat ≤ last with
  | some (_, form) => form
  | none => undefined

end OperandForm

/-- An instruction at its place in the code. -/
structure Instruction where
  pc : Nat
  opcode : UInt8
  operands : Bytes
  deriving DecidableEq, Repr

namespace Instruction

/-- The number of bytes that the instruction takes. -/
def size (i : Instruction) : Nat := 1 + i.operands.length

/-- Whether the opcode belongs to the instruction set. -/
def isDefined (i : Instruction) : Bool :=
  OperandForm.ofOpcode i.opcode != .undefined

/-- The bytes of the instruction. -/
def encode (i : Instruction) : Bytes := i.opcode :: i.operands

/-- The number of bytes between a switch opcode at `pc` and the next multiple of four. -/
def switchPadding (pc : Nat) : Nat := (4 - (pc + 1) % 4) % 4

/-- The signed number of four bytes at position `at`. -/
def signedAt (bs : Bytes) (start : Nat) : Int32 :=
  (UInt32.ofNat (bs.slice start (start + 4)).toNat).toInt32

/-- The number of operand bytes of the instruction at `pc` with the given opcode, when the code goes
on with `after`. It may be more than there are, but the count fields that it depends on are
there. -/
def operandCount (pc : Nat) (opcode : UInt8) (after : Bytes) : Except ScanError Nat :=
  match OperandForm.ofOpcode opcode with
  | .fixed count => .ok count
  | .undefined => .ok 0
  | .wide =>
    match after with
    | [] => .error (.truncated pc opcode 1 0)
    | modified :: _ => .ok (if modified = Opcode.iinc then 5 else 3)
  | .tableSwitch =>
    let padding := switchPadding pc
    let header := padding + 12
    if after.hasAtLeast header then
      let low := signedAt after (padding + 4)
      let high := signedAt after (padding + 8)
      if high < low then .error (.badTableSwitch pc low high)
      else .ok (header + 4 * (high.toInt - low.toInt + 1).toNat)
    else .error (.truncated pc opcode header after.length)
  | .lookupSwitch =>
    let padding := switchPadding pc
    let header := padding + 8
    if after.hasAtLeast header then
      let pairs := signedAt after (padding + 4)
      if pairs < 0 then .error (.badLookupSwitch pc pairs)
      else .ok (header + 8 * pairs.toInt.toNat)
    else .error (.truncated pc opcode header after.length)

/-- The instruction at `pc` whose opcode is followed by `after`. -/
def read (pc : Nat) (opcode : UInt8) (after : Bytes) : Except ScanError Instruction :=
  match operandCount pc opcode after with
  | .error e => .error e
  | .ok needed =>
    if after.hasAtLeast needed then .ok ⟨pc, opcode, after.take needed⟩
    else .error (.truncated pc opcode needed after.length)

end Instruction

/-- The instructions of a code array in order, up to the first one that cannot be read. -/
structure InstructionWalk where
  instructions : List Instruction
  failure : Option ScanError
  deriving DecidableEq, Repr

namespace InstructionWalk

/-- Reads the instructions of `code`, which starts at `pc`, after the ones already `done`. -/
def go (pc : Nat) (code : Bytes) (done : List Instruction) : InstructionWalk :=
  match code with
  | [] => ⟨done.reverse, none⟩
  | opcode :: after =>
    match Instruction.read pc opcode after with
    | .error e => ⟨done.reverse, some e⟩
    | .ok i => go (pc + i.size) (after.drop i.operands.length) (i :: done)
termination_by code.length
decreasing_by simp only [List.length_cons, List.length_drop]; omega

/-- Reads the instructions of a code array. -/
def ofCode (code : Bytes) : InstructionWalk := go 0 code []

end InstructionWalk

end ClassLiterals
