import ClassLiterals.Bytes.Cursor

/-!
# Typed items in a byte string

The five kinds of item that the format is made of, each with its bytes and with a decoder. A writer
appends items to a buffer; a reader that asks for the same kinds gets the same items back. A reader
has a place also after it could not give what it was asked for, so it can be asked for something
else.
-/

namespace ClassLiterals

/-- A value in a byte string. -/
inductive Item where
  | u1 (value : UInt8)
  | u2 (value : UInt16)
  | u4 (value : UInt32)
  /-- A single-precision number, given by its bits. -/
  | float (bits : UInt32)
  | bytes (value : Bytes)
  deriving DecidableEq, Repr

namespace Item

/-- What a reader has to know of an item before reading it. -/
inductive Kind where
  | u1
  | u2
  | u4
  | float
  | bytes (count : Nat)
  deriving DecidableEq, Repr

/-- The kind of an item. -/
def kind : Item → Kind
  | u1 _ => .u1
  | u2 _ => .u2
  | u4 _ => .u4
  | float _ => .float
  | bytes value => .bytes value.length

/-- The bytes of an item. -/
def encode : Item → Bytes
  | u1 value => [value]
  | u2 value => .ofUInt16 value
  | u4 value => .ofUInt32 value
  | float bits => .ofUInt32 bits
  | bytes value => value

/-- The number of bytes that an item of the kind takes. -/
def Kind.size : Kind → Nat
  | .u1 => 1
  | .u2 => 2
  | .u4 => 4
  | .float => 4
  | .bytes count => count

/-- Reads an item of the kind. -/
def Kind.read : Kind → Decoder Item
  | .u1 => .u1 <$> Decoder.u1
  | .u2 => .u2 <$> Decoder.u2
  | .u4 => .u4 <$> Decoder.u4
  | .float => .float <$> Decoder.u4
  | .bytes count => .bytes <$> Decoder.bytes count

/-- The item of the kind that the bytes spell. -/
def Kind.ofBytes : Kind → Bytes → Item
  | .u1, bs => .u1 (UInt8.ofNat bs.toNat)
  | .u2, bs => .u2 (UInt16.ofNat bs.toNat)
  | .u4, bs => .u4 (UInt32.ofNat bs.toNat)
  | .float, bs => .float (UInt32.ofNat bs.toNat)
  | .bytes _, bs => .bytes bs

/-- A reader of items, at a place in a byte string. What it does to the place stays done when it
fails. -/
abbrev Reader (α : Type) := ExceptT FormatError (StateM Cursor) α

namespace Reader

/-- Fails when fewer than `n` bytes are left. -/
def ensure (n : Nat) : Reader Unit := do
  let c ← get
  if c.rest.hasAtLeast n then return () else throw (.outOfBounds c.position n c.remaining)

/-- Moves behind the next `n` bytes and gives them. -/
def advance (n : Nat) : Reader Bytes := do
  let c ← get
  set (⟨c.position + n, c.rest.drop n⟩ : Cursor)
  return c.rest.take n

/-- Reads an item of the kind. Whether all of it is there is looked at before the reader moves. -/
def item (kind : Kind) : Reader Item := do
  ensure kind.size
  return kind.ofBytes (← advance kind.size)

/-- What a reader at `c` answers when it is asked for an item of the kind, and where it stands
then. -/
def ask (kind : Kind) (c : Cursor) : Except FormatError Item × Cursor :=
  (item kind).run c

/-- What a reader answers when it is asked for one item after the other, and where it stands in the
end. -/
def askAll : List Kind → Cursor → List (Except FormatError Item) × Cursor
  | [], c => ([], c)
  | kind :: kinds, c =>
    let (answer, c₁) := ask kind c
    let (answers, c₂) := askAll kinds c₁
    (answer :: answers, c₂)

end Reader

end Item

/-- A buffer that grows by whole items. -/
structure Writer where
  buffer : Array UInt8 := #[]

namespace Writer

/-- The number of bytes written. -/
def size (w : Writer) : Nat := w.buffer.size

/-- Whether nothing has been written. -/
def isEmpty (w : Writer) : Bool := w.buffer.isEmpty

/-- Appends an item. -/
def put (w : Writer) (item : Item) : Writer :=
  ⟨w.buffer ++ item.encode⟩

/-- A new buffer with the items, one after the other. -/
def ofItems (items : List Item) : Writer :=
  items.foldl put {}

/-- The bytes written. -/
def toBytes (w : Writer) : Bytes := w.buffer.toList

end Writer

end ClassLiterals
