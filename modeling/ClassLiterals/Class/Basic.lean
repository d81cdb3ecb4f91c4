import ClassLiterals.Class.AccessFlags
import ClassLiterals.Class.Code

/-!
# Class files

A class file with its pool, its members and its attributes. A member keeps the bytes that it was
read from and is written back as those bytes; everything else is written from what it means.
-/

namespace ClassLiterals

/-- A field or a method. -/
structure Member where
  flags : AccessFlags
  nameIndex : UInt16
  descriptorIndex : UInt16
  attributes : List Attribute
  /-- The member as it stands in the class file. -/
  raw : Bytes
  deriving DecidableEq, Repr

namespace Member

/-- The name of the member, or why it has none. -/
def name (pool : Pool) (m : Member) : Except PoolError String := pool.expectText m.nameIndex

/-- The descriptor of the member, or why it has none. -/
def descriptor (pool : Pool) (m : Member) : Except PoolError String :=
  pool.expectText m.descriptorIndex

/-- The code of the member, if it has a code attribute. -/
def code (pool : Pool) (m : Member) : Except FormatError (Option Code) :=
  Code.ofAttributes? pool m.attributes

/-- The bytes of a member with the given parts. -/
def encodeParts (flags : AccessFlags) (nameIndex descriptorIndex : UInt16)
    (attributes : List Attribute) : Bytes :=
  Bytes.ofUInt16 flags.bits ++ Bytes.ofUInt16 nameIndex ++ Bytes.ofUInt16 descriptorIndex ++
    Attribute.encodeList attributes

end Member

/-- A class file. -/
structure ClassFile where
  minorVersion : UInt16
  majorVersion : UInt16
  pool : Pool
  flags : AccessFlags
  thisClass : UInt16
  superClass : UInt16
  interfaces : List UInt16
  fields : List Member
  methods : List Member
  attributes : List Attribute
  deriving DecidableEq, Repr

namespace ClassFile

/-- The name of the class, or why it has none. -/
def name (c : ClassFile) : Except PoolError String := c.pool.expectClassName c.thisClass

/-- The name of the superclass, or why it has none. An index of zero says that there is no
superclass. -/
def superName (c : ClassFile) : Except PoolError (Option String) :=
  if c.superClass = 0 then .ok none else (c.pool.expectClassName c.superClass).map some

end ClassFile

end ClassLiterals
