import ClassLiterals.Bytes.Basic
import ClassLiterals.FormatError

/-!
# Reading bytes in order

A cursor is a place in a byte string: how many bytes lie before it, and the bytes after it. A
decoder reads from a cursor and leaves it after what it read. Every read is a read of some number of
bytes, which fails, and moves nothing, when fewer are left.
-/

namespace ClassLiterals

/-- A place in a byte string. -/
structure Cursor where
  /-- The number of bytes before the place. -/
  position : Nat
  /-- The bytes after the place. -/
  rest : Bytes
  deriving DecidableEq, Repr

namespace Cursor

/-- The place before the first byte. -/
def atStart (bs : Bytes) : Cursor := ⟨0, bs⟩

/-- The number of bytes after the place. -/
def remaining (c : Cursor) : Nat := c.rest.length

/-- Whether the place is the end. -/
def isAtEnd (c : Cursor) : Bool := c.rest.isEmpty

end Cursor

/-- A reader of values of type `α`. -/
abbrev Decoder (α : Type) := StateT Cursor (Except FormatError) α

namespace Decoder

variable {α : Type}

/-- Reads the next `n` bytes. -/
def bytes (n : Nat) : Decoder Bytes := fun c =>
  if c.rest.hasAtLeast n then .ok (c.rest.take n, ⟨c.position + n, c.rest.drop n⟩)
  else .error (.outOfBounds c.position n c.remaining)

/-- Reads a number of `width` bytes, the most significant one first. -/
def number (width : Nat) : Decoder Nat := do
  return (← bytes width).toNat

/-- Reads an unsigned number of one byte. -/
def u1 : Decoder UInt8 := do return UInt8.ofNat (← number 1)

/-- Reads an unsigned number of two bytes. -/
def u2 : Decoder UInt16 := do return UInt16.ofNat (← number 2)

/-- Reads an unsigned number of four bytes. -/
def u4 : Decoder UInt32 := do return UInt32.ofNat (← number 4)

/-- Reads `n` values, one after the other. -/
def repeated (n : Nat) (d : Decoder α) : Decoder (List α) :=
  go n []
where
  go : Nat → List α → Decoder (List α)
    | 0, done => fun c => .ok (done.reverse, c)
    | n + 1, done => fun c =>
      match d c with
      | .ok (a, c') => go n (a :: done) c'
      | .error e => .error e

/-- Reads a value and hands out the bytes that it took as well. -/
def withBytes (d : Decoder α) : Decoder (α × Bytes) := fun c =>
  match d c with
  | .ok (a, c') => .ok ((a, c.rest.take (c'.position - c.position)), c')
  | .error e => .error e

/-- Accepts the end of the bytes only. -/
def endOfBytes : Decoder Unit := fun c =>
  if c.isAtEnd then .ok ((), c) else .error (.trailingBytes c.remaining)

/-- Fails for the cause `e`. -/
def fail (e : FormatError) : Decoder α := fun _ => .error e

/-- Reads a value from the front of a byte string. -/
def decode (d : Decoder α) (bs : Bytes) : Except FormatError α :=
  (d (.atStart bs)).map (·.1)

end Decoder

end ClassLiterals
