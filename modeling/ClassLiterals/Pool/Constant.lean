import ClassLiterals.Text.ModifiedUtf8
import ClassLiterals.Text.Binary32
import ClassLiterals.Text.Quoted

/-!
# Constants

The entries of a constant pool. An entry refers to others by their indices in the pool, which start
at one. The two kinds of eight bytes take two indices, and the second one holds no constant.
-/

namespace ClassLiterals

/-- A text in a pool: its bytes as they were read or written, and the text they encode. The bytes
are kept because reading them may lose something. -/
structure Utf8 where
  bytes : Bytes
  text : String
  deriving DecidableEq, Repr

namespace Utf8

/-- The entry with the given bytes. -/
def ofBytes (bytes : Bytes) : Utf8 :=
  ⟨bytes, ModifiedUtf8.decode bytes⟩

/-- The most bytes that an entry can have: its length is a 16-bit number. -/
def maxSize : Nat := 65535

/-- The entry with the given text, or the size of its bytes when they are too many. -/
def ofText (text : String) : Except Nat Utf8 :=
  let bytes := ModifiedUtf8.encode text
  if bytes.length ≤ maxSize then .ok ⟨bytes, text⟩ else .error bytes.length

end Utf8

/-- The eight bytes of a constant in two halves. -/
structure Wide where
  high : UInt32
  low : UInt32
  deriving DecidableEq, Repr

namespace Wide

/-- The sixty-four bits of the two halves. -/
def bits (w : Wide) : UInt64 := UInt64.ofNat ((w.high.toNat <<< 32) + w.low.toNat)

/-- The two halves as a signed number. -/
def toInt (w : Wide) : Int := w.bits.toInt64.toInt

end Wide

/-- A slot of a constant pool. -/
inductive Constant where
  | utf8 (entry : Utf8)
  | integer (value : Int32)
  /-- A single-precision number, given by its bits. -/
  | float (bits : UInt32)
  | long (value : Wide)
  | double (value : Wide)
  | classRef (nameIndex : UInt16)
  | string (textIndex : UInt16)
  | fieldRef (classIndex nameAndTypeIndex : UInt16)
  | methodRef (classIndex nameAndTypeIndex : UInt16)
  | interfaceMethodRef (classIndex nameAndTypeIndex : UInt16)
  | nameAndType (nameIndex descriptorIndex : UInt16)
  | methodHandle (referenceKind : UInt8) (referenceIndex : UInt16)
  | methodType (descriptorIndex : UInt16)
  | invokeDynamic (bootstrapIndex nameAndTypeIndex : UInt16)
  /-- The second slot of a constant of eight bytes. -/
  | unusable
  deriving DecidableEq, Repr

namespace Constant

/-- The kinds of constant. -/
inductive Kind where
  | utf8
  | integer
  | float
  | long
  | double
  | classRef
  | string
  | fieldRef
  | methodRef
  | interfaceMethodRef
  | nameAndType
  | methodHandle
  | methodType
  | invokeDynamic
  deriving DecidableEq, Repr

namespace Kind

/-- The byte that announces a constant of the kind. -/
def tag : Kind → UInt8
  | utf8 => 1
  | integer => 3
  | float => 4
  | long => 5
  | double => 6
  | classRef => 7
  | string => 8
  | fieldRef => 9
  | methodRef => 10
  | interfaceMethodRef => 11
  | nameAndType => 12
  | methodHandle => 15
  | methodType => 16
  | invokeDynamic => 18

/-- The kind that a byte announces. -/
def ofTag? (tag : UInt8) : Option Kind :=
  match tag.toNat with
  | 1 => some utf8
  | 3 => some integer
  | 4 => some float
  | 5 => some long
  | 6 => some double
  | 7 => some classRef
  | 8 => some string
  | 9 => some fieldRef
  | 10 => some methodRef
  | 11 => some interfaceMethodRef
  | 12 => some nameAndType
  | 15 => some methodHandle
  | 16 => some methodType
  | 18 => some invokeDynamic
  | _ => none

/-- The name of the kind in messages. -/
def name : Kind → String
  | utf8 => "Utf8"
  | integer => "Integer"
  | float => "Float"
  | long => "Long"
  | double => "Double"
  | classRef => "Class"
  | string => "String"
  | fieldRef => "FieldRef"
  | methodRef => "MethodRef"
  | interfaceMethodRef => "InterfaceMethodRef"
  | nameAndType => "NameAndType"
  | methodHandle => "MethodHandle"
  | methodType => "MethodType"
  | invokeDynamic => "InvokeDynamic"

end Kind

/-- The kind of a constant; the second slot of a wide constant has none. -/
def kind? : Constant → Option Kind
  | utf8 _ => some .utf8
  | integer _ => some .integer
  | float _ => some .float
  | long _ => some .long
  | double _ => some .double
  | classRef _ => some .classRef
  | string _ => some .string
  | fieldRef .. => some .fieldRef
  | methodRef .. => some .methodRef
  | interfaceMethodRef .. => some .interfaceMethodRef
  | nameAndType .. => some .nameAndType
  | methodHandle .. => some .methodHandle
  | methodType _ => some .methodType
  | invokeDynamic .. => some .invokeDynamic
  | unusable => none

/-- The byte that announces the constant. -/
def tag? (c : Constant) : Option UInt8 := c.kind?.map Kind.tag

/-- Whether the constant takes two slots. -/
def isWide : Constant → Bool
  | long _ | double _ => true
  | _ => false

/-- The number of slots that the constant takes. -/
def slotCount (c : Constant) : Nat := if c.isWide then 2 else 1

/-- The pool indices that the constant refers to. The bootstrap index is no pool index. -/
def references : Constant → List UInt16
  | classRef nameIndex => [nameIndex]
  | string textIndex => [textIndex]
  | fieldRef classIndex nameAndTypeIndex => [classIndex, nameAndTypeIndex]
  | methodRef classIndex nameAndTypeIndex => [classIndex, nameAndTypeIndex]
  | interfaceMethodRef classIndex nameAndTypeIndex => [classIndex, nameAndTypeIndex]
  | nameAndType nameIndex descriptorIndex => [nameIndex, descriptorIndex]
  | methodHandle _ referenceIndex => [referenceIndex]
  | methodType descriptorIndex => [descriptorIndex]
  | invokeDynamic _ nameAndTypeIndex => [nameAndTypeIndex]
  | utf8 _ | integer _ | float _ | long _ | double _ | unusable => []

/-! ## Descriptions -/

section Description

open Text

/-- A record written as `name \x7b field: value, … \x7d`. -/
def describeRecord (name : String) (fields : List (String × String)) : String :=
  name ++ " \x7b " ++ ", ".intercalate (fields.map fun f => f.1 ++ ": " ++ f.2) ++ " \x7d"

/-- An index or a byte in a description. -/
def index (v : UInt16) : String := decimal v.toNat

/-- The constant as messages show it. -/
def describe : Constant → String
  | utf8 entry =>
    "Utf8(" ++ describeRecord "Utf8Info"
      [("bytes", "[" ++ ", ".intercalate (entry.bytes.map fun b => decimal b.toNat) ++ "]"),
       ("text", quoted entry.text)] ++ ")"
  | integer value => "Integer(" ++ signedDecimal value.toInt ++ ")"
  | float bits => "Float(" ++ Binary32.render bits ++ ")"
  | long value => "Long(" ++ wide value ++ ")"
  | double value => "Double(" ++ wide value ++ ")"
  | classRef nameIndex =>
    "Class(" ++ describeRecord "ClassInfo" [("name_index", index nameIndex)] ++ ")"
  | string textIndex => describeRecord "String" [("string_index", index textIndex)]
  | fieldRef c n => "FieldRef(" ++ member c n ++ ")"
  | methodRef c n => "MethodRef(" ++ member c n ++ ")"
  | interfaceMethodRef c n => "InterfaceMethodRef(" ++ member c n ++ ")"
  | nameAndType nameIndex descriptorIndex =>
    "NameAndType(" ++ describeRecord "NameAndTypeInfo"
      [("name_index", index nameIndex), ("descriptor_index", index descriptorIndex)] ++ ")"
  | methodHandle referenceKind referenceIndex =>
    "MethodHandle(" ++ describeRecord "MethodHandleInfo"
      [("reference_kind", decimal referenceKind.toNat),
       ("reference_index", index referenceIndex)] ++ ")"
  | methodType descriptorIndex =>
    "MethodType(" ++ describeRecord "MethodTypeInfo"
      [("descriptor_index", index descriptorIndex)] ++ ")"
  | invokeDynamic bootstrapIndex nameAndTypeIndex =>
    "InvokeDynamic(" ++ describeRecord "InvokeDynamicInfo"
      [("bootstrap_method_attr_index", index bootstrapIndex),
       ("name_and_type_index", index nameAndTypeIndex)] ++ ")"
  | unusable => "Unusable"
where
  wide (w : Wide) : String :=
    describeRecord "WideInfo"
      [("high_bytes", decimal w.high.toNat), ("low_bytes", decimal w.low.toNat)]
  member (c n : UInt16) : String :=
    describeRecord "RefInfo" [("class_index", index c), ("name_and_type_index", index n)]

end Description

end Constant

end ClassLiterals
