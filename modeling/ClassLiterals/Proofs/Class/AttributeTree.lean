import ClassLiterals.Class.Operands
import ClassLiterals.Proofs.Class.RoundTrip

/-!
# What attributes say

The values that the attributes with text operands stand for, as syntax trees, and how the format
lays them out. A payload is a sequence of parts: indices of texts, names of the attributes inside,
and everything else. The parts give both the bytes of the payload and its operands, so that the
operands stand in the order of the layout and whatever is no text index is left out.

A tree is *valid* in a pool when its lists can be counted, its payloads can be measured, and its
attributes are named as their layouts ask for.
-/

namespace ClassLiterals

/-! ## Parts of a payload -/

/-- A part of a payload. -/
inductive PayloadPart where
  /-- The index of a text, or zero where there is none. -/
  | text (index : UInt16)
  /-- The index of the name of an attribute. -/
  | name (index : UInt16)
  /-- Anything else. -/
  | other (bs : Bytes)
  deriving DecidableEq, Repr

namespace PayloadPart

/-- The bytes of a part. -/
def bytes : PayloadPart → Bytes
  | text index => Bytes.ofUInt16 index
  | name index => Bytes.ofUInt16 index
  | other bs => bs

/-- The operands that a part holds. -/
def operands : PayloadPart → List UInt16
  | text index => if index = 0 then [] else [index]
  | name index => [index]
  | other _ => []

/-- The bytes of parts in a row. -/
def bytesOf (ps : List PayloadPart) : Bytes := ps.flatMap bytes

/-- The operands of parts in a row. -/
def operandsOf (ps : List PayloadPart) : List UInt16 := ps.flatMap operands

/-- A 16-bit number that is no index of a text. -/
def number (v : UInt16) : PayloadPart := other (Bytes.ofUInt16 v)

/-- Parts after a count of two bytes. -/
def counted (n : Nat) (ps : List PayloadPart) : List PayloadPart := number (UInt16.ofNat n) :: ps

/-- Parts after a count of one byte. -/
def shortCounted (n : Nat) (ps : List PayloadPart) : List PayloadPart := other [UInt8.ofNat n] :: ps

end PayloadPart

open PayloadPart (bytesOf operandsOf counted shortCounted)

/-! ## Annotations -/

/-- The types of the numbers that annotations hold. -/
inductive PrimitiveType where
  | byte
  | char
  | double
  | float
  | int
  | long
  | short
  | boolean
  deriving DecidableEq, Repr

/-- The letter that stands for a type. -/
def PrimitiveType.letter : PrimitiveType → Char
  | byte => 'B'
  | char => 'C'
  | double => 'D'
  | float => 'F'
  | int => 'I'
  | long => 'J'
  | short => 'S'
  | boolean => 'Z'

/-- The value of an element of an annotation. -/
inductive ElementValue where
  /-- A number, by the index of its constant. -/
  | number (type : PrimitiveType) (index : UInt16)
  | string (text : UInt16)
  | classLiteral (descriptor : UInt16)
  | enumConstant (type name : UInt16)
  /-- An annotation: its type, and the names and values of its elements. -/
  | nested (type : UInt16) (elements : List (UInt16 × ElementValue))
  | array (values : List ElementValue)

namespace ElementValue

/-- The byte before a value, which tells its kind. -/
def tag (letter : Char) : PayloadPart := .other [letter.toUInt8]

mutual

/-- How a value is laid out. -/
def parts : ElementValue → List PayloadPart
  | .number type index => [tag type.letter, .number index]
  | .string text => [tag 's', .text text]
  | .classLiteral descriptor => [tag 'c', .text descriptor]
  | .enumConstant type name => [tag 'e', .text type, .text name]
  | .nested type elements =>
    tag '@' :: .text type :: counted elements.length (elementParts elements)
  | .array values => tag '[' :: counted values.length (valueParts values)

/-- How named values are laid out. -/
def elementParts : List (UInt16 × ElementValue) → List PayloadPart
  | [] => []
  | (name, value) :: rest => .text name :: value.parts ++ elementParts rest

/-- How values are laid out. -/
def valueParts : List ElementValue → List PayloadPart
  | [] => []
  | value :: rest => value.parts ++ valueParts rest

end

theorem elementParts_eq_flatMap (elements : List (UInt16 × ElementValue)) :
    elementParts elements = elements.flatMap fun e => .text e.1 :: e.2.parts := by
  induction elements with
  | nil => rfl
  | cons e rest ih => rw [List.flatMap_cons, ← ih, elementParts]

theorem valueParts_eq_flatMap (values : List ElementValue) :
    valueParts values = values.flatMap parts := by
  induction values with
  | nil => rfl
  | cons value rest ih => rw [List.flatMap_cons, ← ih, valueParts]

/-- A value whose lists can be counted. -/
inductive Fits : ElementValue → Prop where
  | number (type index) : Fits (.number type index)
  | string (text) : Fits (.string text)
  | classLiteral (descriptor) : Fits (.classLiteral descriptor)
  | enumConstant (type name) : Fits (.enumConstant type name)
  | nested {type elements} (hcount : elements.length ≤ 65535)
      (hall : ∀ e ∈ elements, Fits e.2) : Fits (.nested type elements)
  | array {values} (hcount : values.length ≤ 65535) (hall : ∀ v ∈ values, Fits v) :
      Fits (.array values)

end ElementValue

/-- An annotation: its type, and the names and values of its elements. -/
structure AnnotationTree where
  type : UInt16
  elements : List (UInt16 × ElementValue)

namespace AnnotationTree

/-- How an annotation is laid out. -/
def parts (a : AnnotationTree) : List PayloadPart :=
  .text a.type :: counted a.elements.length (ElementValue.elementParts a.elements)

/-- An annotation whose lists can be counted. -/
structure Fits (a : AnnotationTree) : Prop where
  count : a.elements.length ≤ 65535
  values : ∀ e ∈ a.elements, e.2.Fits

end AnnotationTree

/-- What a type annotation applies to. -/
inductive TypeTarget where
  | typeParameter (ofMethod : Bool) (index : UInt8)
  | supertype (index : UInt16)
  | typeParameterBound (ofMethod : Bool) (parameter bound : UInt8)
  | field
  | result
  | receiver
  | formalParameter (index : UInt8)
  | throws (index : UInt16)
  /-- A local variable: the ranges of code in which it has a value, and its place in each. -/
  | localVariable (isResource : Bool) (ranges : List (UInt16 × UInt16 × UInt16))
  | exceptionParameter (handler : UInt16)
  | instanceOf (pc : UInt16)
  | newObject (pc : UInt16)
  | constructorReference (pc : UInt16)
  | methodReference (pc : UInt16)
  | cast (pc : UInt16) (index : UInt8)
  | constructorCallArgument (pc : UInt16) (index : UInt8)
  | methodCallArgument (pc : UInt16) (index : UInt8)
  | constructorReferenceArgument (pc : UInt16) (index : UInt8)
  | methodReferenceArgument (pc : UInt16) (index : UInt8)
  deriving DecidableEq, Repr

namespace TypeTarget

/-- The bytes of a range of code with the place of a local variable. -/
def encodeRange (r : UInt16 × UInt16 × UInt16) : Bytes :=
  Bytes.ofUInt16 r.1 ++ Bytes.ofUInt16 r.2.1 ++ Bytes.ofUInt16 r.2.2

/-- The bytes of a target: its kind, and what tells it from the other targets of the kind. -/
def encode : TypeTarget → Bytes
  | typeParameter ofMethod index => [if ofMethod then 0x01 else 0x00, index]
  | supertype index => 0x10 :: Bytes.ofUInt16 index
  | typeParameterBound ofMethod parameter bound =>
    [if ofMethod then 0x12 else 0x11, parameter, bound]
  | field => [0x13]
  | result => [0x14]
  | receiver => [0x15]
  | formalParameter index => [0x16, index]
  | throws index => 0x17 :: Bytes.ofUInt16 index
  | localVariable isResource ranges =>
    (if isResource then 0x41 else 0x40) ::
      (Bytes.ofUInt16 (UInt16.ofNat ranges.length) ++ ranges.flatMap encodeRange)
  | exceptionParameter handler => 0x42 :: Bytes.ofUInt16 handler
  | instanceOf pc => 0x43 :: Bytes.ofUInt16 pc
  | newObject pc => 0x44 :: Bytes.ofUInt16 pc
  | constructorReference pc => 0x45 :: Bytes.ofUInt16 pc
  | methodReference pc => 0x46 :: Bytes.ofUInt16 pc
  | cast pc index => 0x47 :: (Bytes.ofUInt16 pc ++ [index])
  | constructorCallArgument pc index => 0x48 :: (Bytes.ofUInt16 pc ++ [index])
  | methodCallArgument pc index => 0x49 :: (Bytes.ofUInt16 pc ++ [index])
  | constructorReferenceArgument pc index => 0x4A :: (Bytes.ofUInt16 pc ++ [index])
  | methodReferenceArgument pc index => 0x4B :: (Bytes.ofUInt16 pc ++ [index])

/-- A target whose ranges can be counted. -/
def Fits : TypeTarget → Prop
  | localVariable _ ranges => ranges.length ≤ 65535
  | _ => True

end TypeTarget

/-- An annotation of a part of a type. -/
structure TypeAnnotationTree where
  target : TypeTarget
  /-- The steps from the type to the part: the kind of each, and the index of a type argument. -/
  path : List (UInt8 × UInt8)
  content : AnnotationTree

namespace TypeAnnotationTree

/-- How a type annotation is laid out. -/
def parts (a : TypeAnnotationTree) : List PayloadPart :=
  .other a.target.encode ::
    (shortCounted a.path.length [.other (a.path.flatMap fun step => [step.1, step.2])] ++
      a.content.parts)

/-- A type annotation whose lists can be counted. -/
structure Fits (a : TypeAnnotationTree) : Prop where
  target : a.target.Fits
  path : a.path.length ≤ 255
  content : a.content.Fits

end TypeAnnotationTree

/-! ## Attributes without attributes inside -/

/-- A row of the attribute `InnerClasses`. -/
structure InnerClass where
  innerClass : UInt16
  outerClass : UInt16
  name : UInt16
  flags : UInt16
  deriving DecidableEq, Repr

/-- A row of the attributes `LocalVariableTable` and `LocalVariableTypeTable`. -/
structure LocalVariable where
  startPc : UInt16
  length : UInt16
  name : UInt16
  /-- The descriptor or the signature of the variable. -/
  type : UInt16
  place : UInt16
  deriving DecidableEq, Repr

/-- A row of the attribute `MethodParameters`. -/
structure MethodParameter where
  name : UInt16
  flags : UInt16
  deriving DecidableEq, Repr

/-- How a row is laid out. -/
def InnerClass.parts (c : InnerClass) : List PayloadPart :=
  [.number c.innerClass, .number c.outerClass, .text c.name, .number c.flags]

/-- How a row is laid out. -/
def LocalVariable.parts (v : LocalVariable) : List PayloadPart :=
  [.number v.startPc, .number v.length, .text v.name, .text v.type, .number v.place]

/-- How a row is laid out. -/
def MethodParameter.parts (p : MethodParameter) : List PayloadPart :=
  [.text p.name, .number p.flags]

/-- The payload of an attribute with text operands and without attributes inside. -/
inductive AttributeBody where
  | sourceFile (name : UInt16)
  | signature (text : UInt16)
  | innerClasses (rows : List InnerClass)
  | localVariableTable (rows : List LocalVariable)
  | localVariableTypeTable (rows : List LocalVariable)
  | methodParameters (rows : List MethodParameter)
  | annotations (visible : Bool) (rows : List AnnotationTree)
  /-- The annotations of every parameter. -/
  | parameterAnnotations (visible : Bool) (parameters : List (List AnnotationTree))
  | typeAnnotations (visible : Bool) (rows : List TypeAnnotationTree)
  | annotationDefault (value : ElementValue)

namespace AttributeBody

/-- The name of the attributes with such a payload. -/
def name : AttributeBody → String
  | sourceFile _ => "SourceFile"
  | signature _ => "Signature"
  | innerClasses _ => "InnerClasses"
  | localVariableTable _ => "LocalVariableTable"
  | localVariableTypeTable _ => "LocalVariableTypeTable"
  | methodParameters _ => "MethodParameters"
  | annotations visible _ =>
    if visible then "RuntimeVisibleAnnotations" else "RuntimeInvisibleAnnotations"
  | parameterAnnotations visible _ =>
    if visible then "RuntimeVisibleParameterAnnotations"
    else "RuntimeInvisibleParameterAnnotations"
  | typeAnnotations visible _ =>
    if visible then "RuntimeVisibleTypeAnnotations" else "RuntimeInvisibleTypeAnnotations"
  | annotationDefault _ => "AnnotationDefault"

/-- How a list of annotations is laid out. -/
def annotationParts (as : List AnnotationTree) : List PayloadPart :=
  counted as.length (as.flatMap AnnotationTree.parts)

/-- How a payload is laid out. -/
def parts : AttributeBody → List PayloadPart
  | sourceFile name => [.text name]
  | signature text => [.text text]
  | innerClasses rows => counted rows.length (rows.flatMap InnerClass.parts)
  | localVariableTable rows => counted rows.length (rows.flatMap LocalVariable.parts)
  | localVariableTypeTable rows => counted rows.length (rows.flatMap LocalVariable.parts)
  | methodParameters rows => shortCounted rows.length (rows.flatMap MethodParameter.parts)
  | annotations _ as => annotationParts as
  | parameterAnnotations _ parameters =>
    shortCounted parameters.length (parameters.flatMap annotationParts)
  | typeAnnotations _ as => counted as.length (as.flatMap TypeAnnotationTree.parts)
  | annotationDefault value => value.parts

/-- A payload whose lists can be counted. -/
inductive Fits : AttributeBody → Prop where
  | sourceFile (name) : Fits (.sourceFile name)
  | signature (text) : Fits (.signature text)
  | innerClasses {rows} (hcount : rows.length ≤ 65535) : Fits (.innerClasses rows)
  | localVariableTable {rows} (hcount : rows.length ≤ 65535) : Fits (.localVariableTable rows)
  | localVariableTypeTable {rows} (hcount : rows.length ≤ 65535) :
      Fits (.localVariableTypeTable rows)
  | methodParameters {rows} (hcount : rows.length ≤ 255) : Fits (.methodParameters rows)
  | annotations {visible as} (hcount : as.length ≤ 65535) (hall : ∀ a ∈ as, a.Fits) :
      Fits (.annotations visible as)
  | parameterAnnotations {visible parameters} (hcount : parameters.length ≤ 255)
      (hcounts : ∀ as ∈ parameters, as.length ≤ 65535)
      (hall : ∀ as ∈ parameters, ∀ a ∈ as, a.Fits) : Fits (.parameterAnnotations visible parameters)
  | typeAnnotations {visible as} (hcount : as.length ≤ 65535) (hall : ∀ a ∈ as, a.Fits) :
      Fits (.typeAnnotations visible as)
  | annotationDefault {value} (hvalue : value.Fits) : Fits (.annotationDefault value)

end AttributeBody

/-! ## All attributes -/

/-- The value of an attribute, with the attributes inside. -/
inductive AttributeTree where
  | leaf (nameIndex : UInt16) (body : AttributeBody)
  /-- The name, the descriptor and the attributes of every component. -/
  | record (nameIndex : UInt16) (components : List (UInt16 × UInt16 × List AttributeTree))
  | code (nameIndex maxStack maxLocals : UInt16) (bytecode : Bytes) (handlers : List Handler)
      (attributes : List AttributeTree)
  /-- An attribute that is not known to have text operands. -/
  | unknown (nameIndex : UInt16) (payload : Bytes)

namespace AttributeTree

/-- The index of the name. -/
def nameIndex : AttributeTree → UInt16
  | leaf nameIndex _ => nameIndex
  | record nameIndex _ => nameIndex
  | code nameIndex .. => nameIndex
  | unknown nameIndex _ => nameIndex

mutual

/-- How the payload is laid out. -/
def parts : AttributeTree → List PayloadPart
  | leaf _ body => body.parts
  | record _ components => counted components.length (componentParts components)
  | code _ maxStack maxLocals bytecode handlers attributes =>
    .number maxStack :: .number maxLocals ::
      .other (Bytes.ofUInt32 (UInt32.ofNat bytecode.length) ++ bytecode) ::
        (counted handlers.length [.other (handlers.flatMap Handler.encode)] ++
          counted attributes.length (attributeParts attributes))
  | unknown _ payload => [.other payload]

/-- How the components of a record are laid out. -/
def componentParts : List (UInt16 × UInt16 × List AttributeTree) → List PayloadPart
  | [] => []
  | (name, descriptor, attributes) :: rest =>
    .text name :: .text descriptor ::
      (counted attributes.length (attributeParts attributes) ++ componentParts rest)

/-- How the attributes inside are laid out: their names, the sizes of their payloads, and their
payloads. -/
def attributeParts : List AttributeTree → List PayloadPart
  | [] => []
  | a :: rest =>
    .name a.nameIndex :: .other (Bytes.ofUInt32 (UInt32.ofNat (bytesOf a.parts).length)) ::
      (a.parts ++ attributeParts rest)

end

/-- The attribute as it stands in a class file. -/
def toAttribute (a : AttributeTree) : Attribute := ⟨a.nameIndex, bytesOf a.parts⟩

/-- The operands that an attribute stands for: its name and those of its payload, in order. -/
def operands (a : AttributeTree) : List UInt16 := a.nameIndex :: operandsOf a.parts

/-- The names of the attributes with text operands besides their names. -/
def knownNames : List String :=
  ["SourceFile", "Signature", "InnerClasses", "LocalVariableTable", "LocalVariableTypeTable",
   "MethodParameters", "RuntimeVisibleAnnotations", "RuntimeInvisibleAnnotations",
   "RuntimeVisibleParameterAnnotations", "RuntimeInvisibleParameterAnnotations",
   "RuntimeVisibleTypeAnnotations", "RuntimeInvisibleTypeAnnotations", "AnnotationDefault",
   "Record", "Code"]

/-- The attributes of a list can be counted, and their payloads can be measured. -/
abbrev ListFits (as : List AttributeTree) : Prop :=
  Decoder.Countable Attribute.WellFormed (as.map toAttribute)

/-- A tree that the format can hold, and whose attributes have their names in the pool. -/
inductive Valid (pool : Pool) : AttributeTree → Prop where
  | leaf {nameIndex body} (hname : pool.text? nameIndex = some body.name) (hbody : body.Fits) :
      Valid pool (.leaf nameIndex body)
  | record {nameIndex components} (hname : pool.text? nameIndex = some "Record")
      (hcount : components.length ≤ 65535) (hlists : ∀ c ∈ components, ListFits c.2.2)
      (hall : ∀ c ∈ components, ∀ a ∈ c.2.2, Valid pool a) :
      Valid pool (.record nameIndex components)
  | code {nameIndex maxStack maxLocals bytecode handlers attributes}
      (hname : pool.text? nameIndex = some "Code") (hsize : bytecode.length < 2 ^ 32)
      (hcount : handlers.length ≤ 65535) (hlist : ListFits attributes)
      (hall : ∀ a ∈ attributes, Valid pool a) :
      Valid pool (.code nameIndex maxStack maxLocals bytecode handlers attributes)
  | unknown {nameIndex payload} (hname : ∀ name ∈ knownNames, pool.text? nameIndex ≠ some name) :
      Valid pool (.unknown nameIndex payload)

end AttributeTree
end ClassLiterals
