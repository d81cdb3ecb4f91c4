import ClassLiterals.Text.Quoted

/-!
# Why bytes are no class file

The causes for which bytes cannot be read as a class file, or as the payload of one of its
attributes.
-/

namespace ClassLiterals

/-- A violation of the class file format. -/
inductive FormatError where
  /-- The file starts with something else than the magic number. -/
  | badMagic (found : UInt32)
  /-- The constant pool claims to have `count` slots, which leaves out the slot of index zero. -/
  | badPoolCount (count : UInt16)
  /-- The pool entry at `index` has a tag that no kind of entry has. -/
  | unknownTag (tag : UInt8) (index : UInt16)
  /-- The pool entry at `index` needs two slots and the pool ends after the first. -/
  | noSecondSlot (index : UInt16)
  /-- A read of `requested` bytes at `offset`, where only `remaining` are left. -/
  | outOfBounds (offset requested remaining : Nat)
  /-- The class ends `count` bytes before the file does. -/
  | trailingBytes (count : Nat)
  /-- An annotation holds a value with a tag that no kind of value has. -/
  | unknownValueTag (tag : UInt8)
  /-- A type annotation applies to a kind of target that does not exist. -/
  | unknownTarget (target : UInt8)
  deriving DecidableEq, Repr

namespace FormatError

open Text in
/-- The message for a violation. -/
def message : FormatError → String
  | badMagic found => "Invalid magic identifier: 0x" ++ upperHex found.toNat
  | badPoolCount count => "Invalid constant pool count: " ++ decimal count.toNat
  | unknownTag tag index =>
    "Invalid cp info tag " ++ decimal tag.toNat ++ " at constant pool index " ++
      decimal index.toNat
  | noSecondSlot index =>
    "8-byte constant at index " ++ decimal index.toNat ++ " has no room for its second slot"
  | outOfBounds offset requested remaining =>
    "Out of bounds read at offset " ++ decimal offset ++ ": requested " ++ decimal requested ++
      " bytes, " ++ decimal remaining ++ " remaining"
  | trailingBytes count =>
    decimal count ++ " unexpected bytes after the end of the class file"
  | unknownValueTag tag =>
    "Invalid annotation element value tag " ++ quotedChar (Char.ofNat tag.toNat)
  | unknownTarget target =>
    "Invalid type annotation target 0x" ++ padLeft 2 '0' (upperHex target.toNat)

end FormatError

end ClassLiterals
