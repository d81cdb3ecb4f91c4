import ClassLiterals.Class.Code

/-!
# Text operands of attributes

Some attributes name texts of the pool in their payloads: names, descriptors, signatures and the
values of annotations. The operands of an attribute are the indices of those texts, in the order of
the payload, after the index of its own name. `Code` and `Record` hold attributes of their own,
whose operands are included. An attribute with another name has no operands but its name.

An index of zero marks a name that is not there, and is left out.
-/

namespace ClassLiterals

/-- How the payload of an attribute is laid out, as far as its text operands go. -/
inductive AttributeLayout where
  /-- One text index. -/
  | singleText
  | innerClasses
  | localVariables
  | methodParameters
  | annotations
  | parameterAnnotations
  | typeAnnotations
  /-- The value of one annotation element. -/
  | elementValue
  | record
  | code
  /-- No text operands, or none that are known. -/
  | plain
  deriving DecidableEq, Repr

/-- The layout of the attributes with a given name. -/
def AttributeLayout.ofName (name : String) : AttributeLayout :=
  (table.find? (·.1 == name)).elim plain (·.2)
where
  table : List (String × AttributeLayout) :=
    [("SourceFile", singleText), ("Signature", singleText), ("InnerClasses", innerClasses),
     ("LocalVariableTable", localVariables), ("LocalVariableTypeTable", localVariables),
     ("MethodParameters", methodParameters),
     ("RuntimeVisibleAnnotations", annotations), ("RuntimeInvisibleAnnotations", annotations),
     ("RuntimeVisibleParameterAnnotations", parameterAnnotations),
     ("RuntimeInvisibleParameterAnnotations", parameterAnnotations),
     ("RuntimeVisibleTypeAnnotations", typeAnnotations),
     ("RuntimeInvisibleTypeAnnotations", typeAnnotations),
     ("AnnotationDefault", elementValue), ("Record", record), ("Code", code)]

namespace Operands

open Decoder

/-- Reads a text index. -/
def textIndex : Decoder (List UInt16) := do
  let index ← u2
  return if index = 0 then [] else [index]

/-- The operands of several parts, one after the other. Those of the last part are not copied, so
that parts may be nested deeply. -/
def join : List (List UInt16) → List UInt16
  | [] => []
  | [operands] => operands
  | operands :: rest => operands ++ join rest

/-- Reads `n` parts of a payload and joins their operands. -/
def several (n : Nat) (part : Decoder (List UInt16)) : Decoder (List UInt16) := do
  return join (← repeated n part)

/-- Reads an annotation: its type, and the name and the value of each element. -/
def annotationOperands (value : Decoder (List UInt16)) : Decoder (List UInt16) := do
  let type ← textIndex
  let count ← u2
  let elements ← several count.toNat do
    let name ← textIndex
    let operands ← value
    return name ++ operands
  return type ++ elements

/-- Reads an element value in at most `depth` levels of nesting. Every level takes a byte, so a
depth of the number of bytes is enough for all values, and without a byte there is no value. -/
def elementValue : (depth : Nat) → Decoder (List UInt16)
  | 0 => do
    let _ ← u1
    return []
  | depth + 1 => do
    let tag ← u1
    match Char.ofNat tag.toNat with
    | 's' | 'c' => textIndex
    | 'B' | 'C' | 'D' | 'F' | 'I' | 'J' | 'S' | 'Z' => do
      let _ ← u2
      return []
    | 'e' => do
      let type ← textIndex
      let name ← textIndex
      return type ++ name
    | '@' => annotationOperands (elementValue depth)
    | '[' => do
      let count ← u2
      several count.toNat (elementValue depth)
    | _ => fail (.unknownValueTag tag)

/-- Reads the description of the target of a type annotation, which holds no text index. -/
def typeTarget : Decoder Unit := do
  let target ← u1
  let n := target.toNat
  let size ←
    if n = 0x00 ∨ n = 0x01 ∨ n = 0x16 then pure 1
    else if n = 0x10 ∨ n = 0x11 ∨ n = 0x12 ∨ n = 0x17 ∨ (0x42 ≤ n ∧ n ≤ 0x46) then pure 2
    else if 0x13 ≤ n ∧ n ≤ 0x15 then pure 0
    else if n = 0x40 ∨ n = 0x41 then do
      let rows ← u2
      pure (rows.toNat * 6)
    else if 0x47 ≤ n ∧ n ≤ 0x4B then pure 3
    else fail (.unknownTarget target)
  let _ ← bytes size

/-- Reads a type annotation: target, path and annotation. -/
def typeAnnotationOperands (value : Decoder (List UInt16)) : Decoder (List UInt16) := do
  typeTarget
  let steps ← u1
  let _ ← bytes (steps.toNat * 2)
  annotationOperands value

/-- Reads a counted list of attributes, the operands of each given by `operands`. -/
def nestedAttributes (operands : Attribute → Except FormatError (List UInt16)) :
    Decoder (List UInt16) := do
  let count ← u2
  several count.toNat do
    let a ← Attribute.read
    fun c => (operands a).map (·, c)

/-- Reads the payload of an attribute. `value` reads an element value, and `nested` gives the
operands of an attribute inside. -/
def payload (layout : AttributeLayout) (value : Decoder (List UInt16))
    (nested : Attribute → Except FormatError (List UInt16)) : Decoder (List UInt16) :=
  match layout with
  | .singleText => textIndex
  | .innerClasses => do
    let count ← u2
    several count.toNat do
      let _ ← bytes 4
      let name ← textIndex
      let _ ← u2
      return name
  | .localVariables => do
    let count ← u2
    several count.toNat do
      let _ ← bytes 4
      let name ← textIndex
      let type ← textIndex
      let _ ← u2
      return name ++ type
  | .methodParameters => do
    let count ← u1
    several count.toNat do
      let name ← textIndex
      let _ ← u2
      return name
  | .annotations => do
    let count ← u2
    several count.toNat (annotationOperands value)
  | .parameterAnnotations => do
    let parameters ← u1
    several parameters.toNat do
      let count ← u2
      several count.toNat (annotationOperands value)
  | .typeAnnotations => do
    let count ← u2
    several count.toNat (typeAnnotationOperands value)
  | .elementValue => value
  | .record => do
    let count ← u2
    several count.toNat do
      let name ← textIndex
      let descriptor ← textIndex
      let operands ← nestedAttributes nested
      return name ++ descriptor ++ operands
  | .code => do
    let code ← Code.read
    return join (← (code.attributes.mapM nested : Except FormatError _))
  | .plain => pure []

/-- The operands of an attribute in at most `depth` levels of nesting. -/
def ofAttribute (pool : Pool) : (depth : Nat) → Attribute → Except FormatError (List UInt16)
  | 0, a => .ok [a.nameIndex]
  | depth + 1, a => do
    let layout := AttributeLayout.ofName ((pool.text? a.nameIndex).getD "")
    let reader := payload layout (elementValue a.payload.length) (ofAttribute pool depth)
    return a.nameIndex :: (← reader.decode a.payload)

end Operands

/-- The text operands of an attribute, its own name first. An attribute inside another one is
shorter, so the number of bytes bounds the depth. -/
def Attribute.operands (pool : Pool) (a : Attribute) : Except FormatError (List UInt16) :=
  Operands.ofAttribute pool (a.payload.length + 1) a

end ClassLiterals
