import ClassLiterals.Pool.Codec

/-!
# Attributes

An attribute is a name, given by its index in the pool, and a payload that only the readers of that
name understand.
-/

namespace ClassLiterals

/-- An attribute of a class, a member or a code array. -/
structure Attribute where
  nameIndex : UInt16
  payload : Bytes
  deriving DecidableEq, Repr

namespace Attribute

/-- Reads an attribute. -/
def read : Decoder Attribute := do
  let nameIndex ← Decoder.u2
  let size ← Decoder.u4
  let payload ← Decoder.bytes size.toNat
  return ⟨nameIndex, payload⟩

/-- Reads a counted list of attributes. -/
def readList : Decoder (List Attribute) := do
  let count ← Decoder.u2
  Decoder.repeated count.toNat read

/-- The bytes of an attribute. -/
def encode (a : Attribute) : Bytes :=
  Bytes.ofUInt16 a.nameIndex ++ Bytes.ofUInt32 (UInt32.ofNat a.payload.length) ++ a.payload

/-- The bytes of a counted list of attributes. -/
def encodeList (as : List Attribute) : Bytes :=
  Bytes.ofUInt16 (UInt16.ofNat as.length) ++ as.flatMap encode

/-- The first attribute with the given name. -/
def findByName? (pool : Pool) (name : String) (as : List Attribute) : Option Attribute :=
  as.find? fun a => pool.text? a.nameIndex == some name

open Text in
/-- The attribute as messages show it, without its payload. -/
def describe (a : Attribute) : String :=
  Constant.describeRecord "Attribute"
    [("attribute_name_index", decimal a.nameIndex.toNat),
     ("info", quoted ("(" ++ decimal a.payload.length ++ " bytes)"))]

end Attribute

end ClassLiterals
