import ClassLiterals.Class.Attribute
import ClassLiterals.Bytecode.Scan

/-!
# Code attributes

The payload of the attribute `Code`: the limits of a method's frame, its code array, its exception
handlers and attributes of its own. Bytes after the last of them are not looked at.
-/

namespace ClassLiterals

/-- A row of the exception table. -/
structure Handler where
  startPc : UInt16
  endPc : UInt16
  handlerPc : UInt16
  catchType : UInt16
  deriving DecidableEq, Repr

/-- The payload of a `Code` attribute. -/
structure Code where
  maxStack : UInt16
  maxLocals : UInt16
  bytecode : Bytes
  handlers : List Handler
  attributes : List Attribute
  deriving DecidableEq, Repr

namespace Handler

open Decoder in
/-- Reads a row of the exception table. -/
def read : Decoder Handler := do
  let startPc ← u2
  let endPc ← u2
  let handlerPc ← u2
  let catchType ← u2
  return ⟨startPc, endPc, handlerPc, catchType⟩

/-- The bytes of a row. -/
def encode (h : Handler) : Bytes :=
  Bytes.ofUInt16 h.startPc ++ Bytes.ofUInt16 h.endPc ++ Bytes.ofUInt16 h.handlerPc ++
    Bytes.ofUInt16 h.catchType

end Handler

namespace Code

open Decoder in
/-- Reads the payload of a `Code` attribute. -/
def read : Decoder Code := do
  let maxStack ← u2
  let maxLocals ← u2
  let size ← u4
  let bytecode ← bytes size.toNat
  let handlerCount ← u2
  let handlers ← repeated handlerCount.toNat Handler.read
  let attributes ← Attribute.readList
  return ⟨maxStack, maxLocals, bytecode, handlers, attributes⟩

/-- The payload of a `Code` attribute, from its bytes. -/
def decode (payload : Bytes) : Except FormatError Code :=
  Decoder.decode read payload

/-- The bytes of the payload. -/
def encode (c : Code) : Bytes :=
  Bytes.ofUInt16 c.maxStack ++ Bytes.ofUInt16 c.maxLocals ++
    Bytes.ofUInt32 (UInt32.ofNat c.bytecode.length) ++ c.bytecode ++
    Bytes.ofUInt16 (UInt16.ofNat c.handlers.length) ++ c.handlers.flatMap Handler.encode ++
    Attribute.encodeList c.attributes

/-- Scans the code array. -/
def scan (c : Code) : Except ScanError Scan := Scan.ofCode c.bytecode

/-- The load sites of the code array. -/
def loadSites (c : Code) : Except ScanError (List LoadSite) :=
  c.scan.map Scan.loadSites

/-- The code among the attributes of a method: the payload of the first one named `Code`. -/
def ofAttributes? (pool : Pool) (as : List Attribute) : Except FormatError (Option Code) :=
  match Attribute.findByName? pool "Code" as with
  | none => .ok none
  | some a => (decode a.payload).map some

end Code

end ClassLiterals
