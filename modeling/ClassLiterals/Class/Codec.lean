import ClassLiterals.Class.Basic

/-!
# Class files as bytes

Reading a class file takes the whole of its bytes: bytes after the last attribute are an error.
Writing a class that was read gives the same bytes back.
-/

namespace ClassLiterals

open Decoder

/-- Reads a field or a method. -/
def Member.read : Decoder Member := do
  let ((flags, nameIndex, descriptorIndex, attributes), raw) ← withBytes do
    let flags ← u2
    let nameIndex ← u2
    let descriptorIndex ← u2
    let attributes ← Attribute.readList
    return (⟨flags⟩, nameIndex, descriptorIndex, attributes)
  return { flags, nameIndex, descriptorIndex, attributes, raw }

namespace ClassFile

/-- The number that every class file starts with. -/
def magic : UInt32 := 0xCAFEBABE

/-- Reads the magic number. -/
def readMagic : Decoder Unit := do
  let found ← u4
  if found = magic then return () else fail (.badMagic found)

/-- Reads a class file up to its last attribute. -/
def read : Decoder ClassFile := do
  readMagic
  let minorVersion ← u2
  let majorVersion ← u2
  let pool ← Pool.read
  let flags ← u2
  let thisClass ← u2
  let superClass ← u2
  let interfaceCount ← u2
  let interfaces ← repeated interfaceCount.toNat u2
  let fieldCount ← u2
  let fields ← repeated fieldCount.toNat Member.read
  let methodCount ← u2
  let methods ← repeated methodCount.toNat Member.read
  let attributes ← Attribute.readList
  return { minorVersion, majorVersion, pool, flags := ⟨flags⟩, thisClass, superClass, interfaces,
           fields, methods, attributes }

/-- The class file with the given bytes. -/
def parse (bs : Bytes) : Except FormatError ClassFile :=
  (do let c ← read; endOfBytes; return c : Decoder ClassFile).decode bs

/-- The bytes of a class file. -/
def toBytes (c : ClassFile) : Bytes :=
  Bytes.ofUInt32 magic ++ Bytes.ofUInt16 c.minorVersion ++ Bytes.ofUInt16 c.majorVersion ++
    c.pool.encode ++
    Bytes.ofUInt16 c.flags.bits ++ Bytes.ofUInt16 c.thisClass ++ Bytes.ofUInt16 c.superClass ++
    Bytes.ofUInt16 (UInt16.ofNat c.interfaces.length) ++ c.interfaces.flatMap Bytes.ofUInt16 ++
    Bytes.ofUInt16 (UInt16.ofNat c.fields.length) ++ c.fields.flatMap Member.raw ++
    Bytes.ofUInt16 (UInt16.ofNat c.methods.length) ++ c.methods.flatMap Member.raw ++
    Attribute.encodeList c.attributes

end ClassFile

end ClassLiterals
