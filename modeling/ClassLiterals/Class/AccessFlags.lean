/-!
# Access flags

The flags of classes, fields and methods. A bit means different things in different places; here
each bit has the one name that the others are aliases of.
-/

namespace ClassLiterals

/-- A set of access flags. Bits without a name are kept. -/
structure AccessFlags where
  bits : UInt16
  deriving DecidableEq, Repr

namespace AccessFlags

/-- The named flags, the lowest bit first. -/
def named : List (UInt16 × String) :=
  [(0x0001, "PUBLIC"), (0x0002, "PRIVATE"), (0x0004, "PROTECTED"), (0x0008, "STATIC"),
   (0x0010, "FINAL"), (0x0020, "SUPER"), (0x0040, "VOLATILE"), (0x0080, "TRANSIENT"),
   (0x0100, "NATIVE"), (0x0200, "INTERFACE"), (0x0400, "ABSTRACT"), (0x0800, "STRICT"),
   (0x1000, "SYNTHETIC"), (0x2000, "ANNOTATION"), (0x4000, "ENUM"), (0x8000, "MODULE")]

/-- The names of the flags that are set. -/
def names (f : AccessFlags) : List String :=
  (named.filter fun (bit, _) => f.bits &&& bit != 0).map (·.2)

end AccessFlags

end ClassLiterals
