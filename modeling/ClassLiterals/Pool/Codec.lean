import ClassLiterals.Bytes.Cursor
import ClassLiterals.Pool.Basic

/-!
# Constant pools as bytes

A pool is a count followed by the constants, each a tag and a payload. The second slot of a wide
constant takes no bytes. The count is one more than the number of slots, so a pool with a count of
zero does not exist, and a wide constant needs room for its second slot.
-/

namespace ClassLiterals

namespace Constant

/-- The bytes of a constant. -/
def encode : Constant → Bytes
  | utf8 entry =>
    Kind.utf8.tag :: (Bytes.ofUInt16 (UInt16.ofNat entry.bytes.length) ++ entry.bytes)
  | integer value => Kind.integer.tag :: Bytes.ofUInt32 value.toUInt32
  | float bits => Kind.float.tag :: Bytes.ofUInt32 bits
  | long value => Kind.long.tag :: (Bytes.ofUInt32 value.high ++ Bytes.ofUInt32 value.low)
  | double value => Kind.double.tag :: (Bytes.ofUInt32 value.high ++ Bytes.ofUInt32 value.low)
  | classRef nameIndex => Kind.classRef.tag :: Bytes.ofUInt16 nameIndex
  | string textIndex => Kind.string.tag :: Bytes.ofUInt16 textIndex
  | fieldRef c n => Kind.fieldRef.tag :: (Bytes.ofUInt16 c ++ Bytes.ofUInt16 n)
  | methodRef c n => Kind.methodRef.tag :: (Bytes.ofUInt16 c ++ Bytes.ofUInt16 n)
  | interfaceMethodRef c n =>
    Kind.interfaceMethodRef.tag :: (Bytes.ofUInt16 c ++ Bytes.ofUInt16 n)
  | nameAndType n d => Kind.nameAndType.tag :: (Bytes.ofUInt16 n ++ Bytes.ofUInt16 d)
  | methodHandle k r => Kind.methodHandle.tag :: k :: Bytes.ofUInt16 r
  | methodType d => Kind.methodType.tag :: Bytes.ofUInt16 d
  | invokeDynamic b n => Kind.invokeDynamic.tag :: (Bytes.ofUInt16 b ++ Bytes.ofUInt16 n)
  | unusable => []

open Decoder in
/-- Reads the two halves of a wide constant. -/
def readWide : Decoder Wide := do
  let high ← u4
  let low ← u4
  return ⟨high, low⟩

open Decoder in
/-- Reads what follows the tag of a constant of the given kind. -/
def readPayload : Kind → Decoder Constant
  | .utf8 => do
    let size ← u2
    let payload ← bytes size.toNat
    return .utf8 (.ofBytes payload)
  | .integer => do return .integer (← u4).toInt32
  | .float => do return .float (← u4)
  | .long => do return .long (← readWide)
  | .double => do return .double (← readWide)
  | .classRef => do return .classRef (← u2)
  | .string => do return .string (← u2)
  | .fieldRef => do
    let c ← u2
    let n ← u2
    return .fieldRef c n
  | .methodRef => do
    let c ← u2
    let n ← u2
    return .methodRef c n
  | .interfaceMethodRef => do
    let c ← u2
    let n ← u2
    return .interfaceMethodRef c n
  | .nameAndType => do
    let n ← u2
    let d ← u2
    return .nameAndType n d
  | .methodHandle => do
    let k ← u1
    let r ← u2
    return .methodHandle k r
  | .methodType => do return .methodType (← u2)
  | .invokeDynamic => do
    let b ← u2
    let n ← u2
    return .invokeDynamic b n

/-- Reads the constant of the given index. -/
def read (index : UInt16) : Decoder Constant := do
  let tag ← Decoder.u1
  match Kind.ofTag? tag with
  | some kind => readPayload kind
  | none => Decoder.fail (.unknownTag tag index)

end Constant

namespace Pool

/-- Reads constants into the `left` slots from `index` on, after the slots already `done`. -/
def readSlots : (left : Nat) → (index : UInt16) → (done : Array Constant) →
    Decoder (Array Constant)
  | 0, _, done => fun c => .ok (done, c)
  | left + 1, index, done => fun c =>
    match Constant.read index c with
    | .error e => .error e
    | .ok (constant, c') =>
      if constant.isWide then
        match left with
        | 0 => .error (.noSecondSlot index)
        | left + 1 => readSlots left (index + 2) ((done.push constant).push .unusable) c'
      else readSlots left (index + 1) (done.push constant) c'

/-- Reads a pool. -/
def read : Decoder Pool := do
  let count ← Decoder.u2
  if count = 0 then Decoder.fail (.badPoolCount count)
  else return ⟨← readSlots (count.toNat - 1) 1 #[]⟩

/-- The bytes of a pool. -/
def encode (p : Pool) : Bytes :=
  Bytes.ofUInt16 p.count ++ p.slots.toList.flatMap Constant.encode

end Pool

end ClassLiterals
