import ClassLiterals.Pool.Constant

/-!
# Constant pools

A constant pool is the sequence of its slots. Slot `i` of the class file format is the slot at place
`i - 1` of the sequence, because the format has no slot zero. The second slot of a wide constant is
there, but no look-up finds it.

The only change that a pool allows is a new text for one of its text entries.
-/

namespace ClassLiterals

/-- Why a pool does not give what an index asks for. -/
inductive PoolError where
  /-- The index names a constant of another kind than the expected one. -/
  | unexpectedConstant (expected : Constant.Kind) (found : Constant)
  /-- The index names no constant. -/
  | badIndex (index : UInt16)
  /-- A text takes `size` bytes, which is more than an entry holds. -/
  | textTooLong (size : Nat)
  deriving DecidableEq, Repr

open Text in
/-- The message for a failed access. -/
def PoolError.message : PoolError → String
  | unexpectedConstant expected found =>
    "Expected " ++ expected.name ++ ", found " ++ found.describe
  | badIndex index => "Invalid constant pool index: " ++ decimal index.toNat
  | textTooLong size =>
    "Modified UTF-8 encoding is " ++ decimal size ++ " bytes long, the limit is 65535"

/-- A constant pool. -/
structure Pool where
  slots : Array Constant := #[]
  deriving DecidableEq, Repr

namespace Pool

/-- The count that a class file states: one more than the number of slots, as a 16-bit number. -/
def count (p : Pool) : UInt16 := UInt16.ofNat p.slots.size + 1

/-- The slot of an index, whatever it holds. -/
def slot? (p : Pool) (index : UInt16) : Option Constant :=
  if index = 0 then none else p.slots[index.toNat - 1]?

/-- The constant of an index. -/
def get? (p : Pool) (index : UInt16) : Option Constant :=
  match p.slot? index with
  | some .unusable => none
  | slot => slot

/-- The text of an index, when it names a text entry. -/
def text? (p : Pool) (index : UInt16) : Option String :=
  match p.get? index with
  | some (.utf8 entry) => some entry.text
  | _ => none

/-- The usable constants with their indices, in order. -/
def entries (p : Pool) : List (UInt16 × Constant) :=
  (p.slots.toList.zipIdx 1).filterMap fun (c, i) =>
    if c = .unusable then none else some (UInt16.ofNat i, c)

/-- The constant of an index, if it has the expected kind. -/
def expect (p : Pool) (kind : Constant.Kind) (index : UInt16) : Except PoolError Constant :=
  match p.get? index with
  | some c => if c.kind? = some kind then .ok c else .error (.unexpectedConstant kind c)
  | none => .error (.badIndex index)

/-- The text of an index, or why it has none. -/
def expectText (p : Pool) (index : UInt16) : Except PoolError String :=
  match p.get? index with
  | some (.utf8 entry) => .ok entry.text
  | some c => .error (.unexpectedConstant .utf8 c)
  | none => .error (.badIndex index)

/-- The text of the name of the class constant at an index, or why it has none. -/
def expectClassName (p : Pool) (index : UInt16) : Except PoolError String :=
  match p.get? index with
  | some (.classRef nameIndex) => p.expectText nameIndex
  | some c => .error (.unexpectedConstant .classRef c)
  | none => .error (.badIndex index)

/-- The entry with `text` that can take the place of the text entry at an index. -/
def entryFor (p : Pool) (index : UInt16) (text : String) : Except PoolError Utf8 :=
  match p.get? index with
  | some (.utf8 _) =>
    match Utf8.ofText text with
    | .ok entry => .ok entry
    | .error size => .error (.textTooLong size)
  | some c => .error (.unexpectedConstant .utf8 c)
  | none => .error (.badIndex index)

/-- The pool with a constant in the slot of an index. -/
def setSlot (p : Pool) (index : UInt16) (c : Constant) : Pool :=
  ⟨p.slots.setIfInBounds (index.toNat - 1) c⟩

/-- The pool with `text` as the text of the entry at an index. -/
def setText (p : Pool) (index : UInt16) (text : String) : Except PoolError Pool :=
  match p.entryFor index text with
  | .ok entry => .ok (p.setSlot index (.utf8 entry))
  | .error e => .error e

end Pool

end ClassLiterals
