/-!
# Byte strings

Byte strings as lists, and big-endian numbers in them: the digits of a number in base 256, the most
significant one first.
-/

namespace ClassLiterals

/-- A string of bytes. -/
abbrev Bytes := List UInt8

namespace Bytes

/-- The number that the bytes spell, the most significant byte first. -/
def toNat (bs : Bytes) : Nat :=
  bs.foldl (fun n b => n * 256 + b.toNat) 0

/-- The last `width` digits of `n` in base 256. -/
def ofNat : (width : Nat) → (n : Nat) → Bytes
  | 0, _ => []
  | width + 1, n => ofNat width (n / 256) ++ [UInt8.ofNat n]

/-- The two bytes of a 16-bit number. -/
def ofUInt16 (v : UInt16) : Bytes := ofNat 2 v.toNat

/-- The four bytes of a 32-bit number. -/
def ofUInt32 (v : UInt32) : Bytes := ofNat 4 v.toNat

/-- Whether there are at least `n` bytes. Only the first `n` are looked at. -/
def hasAtLeast : Bytes → Nat → Bool
  | _, 0 => true
  | [], _ + 1 => false
  | _ :: rest, n + 1 => hasAtLeast rest n

/-- The bytes from position `start` up to, but not including, position `stop`. -/
def slice (bs : Bytes) (start stop : Nat) : Bytes :=
  (bs.drop start).take (stop - start)

end Bytes

end ClassLiterals
