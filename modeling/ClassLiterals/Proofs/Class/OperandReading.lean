import ClassLiterals.Proofs.Class.AttributeTree
import ClassLiterals.Proofs.Class.Operands
import ClassLiterals.Proofs.Class.RoundTrip
import ClassLiterals.Proofs.Pool.Update

/-!
# Finding the operands of attributes

The readers of operands go through a payload in the order of its layout. So each reader is matched
with the layout of what it reads: it *gives* the operands among the parts and *takes* exactly their
bytes, whatever follows them. Readers in a row give the operands of parts in a row, and a reader
that takes a byte too many or too few in one place would be lost in everything behind it.

Values of annotations and attributes inside attributes are found by induction on their shape. What
is inside is shorter than what is around it, so the depth to which the readers go is enough.

Main result: `AttributeTree.operands_toAttribute`.
-/

namespace ClassLiterals

open PayloadPart (bytesOf operandsOf counted shortCounted)

/-! ## Parts -/

namespace PayloadPart

@[simp] theorem bytesOf_nil : bytesOf [] = [] := rfl

@[simp] theorem bytesOf_cons (p : PayloadPart) (ps : List PayloadPart) :
    bytesOf (p :: ps) = p.bytes ++ bytesOf ps := rfl

@[simp] theorem bytesOf_append (ps qs : List PayloadPart) :
    bytesOf (ps ++ qs) = bytesOf ps ++ bytesOf qs := List.flatMap_append

theorem bytesOf_flatMap {α : Type} (xs : List α) (p : α → List PayloadPart) :
    bytesOf (xs.flatMap p) = xs.flatMap fun x => bytesOf (p x) := List.flatMap_assoc

@[simp] theorem operandsOf_nil : operandsOf [] = [] := rfl

@[simp] theorem operandsOf_cons (p : PayloadPart) (ps : List PayloadPart) :
    operandsOf (p :: ps) = p.operands ++ operandsOf ps := rfl

@[simp] theorem operandsOf_append (ps qs : List PayloadPart) :
    operandsOf (ps ++ qs) = operandsOf ps ++ operandsOf qs := List.flatMap_append

theorem operandsOf_flatMap {α : Type} (xs : List α) (p : α → List PayloadPart) :
    operandsOf (xs.flatMap p) = xs.flatMap fun x => operandsOf (p x) := List.flatMap_assoc

attribute [simp] bytes operands number counted

theorem length_bytesOf_le {ps qs : List PayloadPart} (h : ps.Sublist qs) :
    (bytesOf ps).length ≤ (bytesOf qs).length := by
  induction h with
  | slnil => exact Nat.le_refl _
  | cons p _ ih =>
    rw [bytesOf_cons, List.length_append]
    exact Nat.le_add_left_of_le ih
  | cons_cons p _ ih =>
    rw [bytesOf_cons, bytesOf_cons, List.length_append, List.length_append]
    exact Nat.add_le_add_left ih _

theorem sublist_flatMap_of_mem {α : Type} {xs : List α} {x : α} (h : x ∈ xs)
    (p : α → List PayloadPart) : (p x).Sublist (xs.flatMap p) := by
  rw [List.flatMap_def]
  exact List.sublist_flatten_of_mem (List.mem_map_of_mem h)

end PayloadPart

/-- The values of an annotation stand among its parts. -/
theorem AnnotationTree.parts_sublist {a : AnnotationTree} {e : UInt16 × ElementValue}
    (he : e ∈ a.elements) : e.2.parts.Sublist a.parts := by
  have hsub := PayloadPart.sublist_flatMap_of_mem he fun e => .text e.1 :: e.2.parts
  rw [AnnotationTree.parts, ElementValue.elementParts_eq_flatMap]
  exact ((((List.sublist_cons_self _ _).trans hsub).cons _).cons _)

/-! ## Operands -/

namespace Operands

open Decoder PayloadPart

/-- The decoder takes the bytes of the parts, and gives the operands among them. -/
def Gives (d : Decoder (List UInt16)) (ps : List PayloadPart) : Prop :=
  Takes d (operandsOf ps) (bytesOf ps)

section Parts

variable {α : Type} {b : α} {d : Decoder (List UInt16)} {ps qs : List PayloadPart}

theorem takes_textIndex (index : UInt16) :
    Takes textIndex (PayloadPart.text index).operands (Bytes.ofUInt16 index) :=
  (takes_u2 index).last (Takes.pure _)

theorem gives_text (index : UInt16) : Gives textIndex [.text index] := by
  have h := takes_textIndex index
  unfold Gives
  simpa using h

theorem takes_text {f : List UInt16 → Decoder α} {index : UInt16}
    (h : Takes (f (PayloadPart.text index).operands) b (bytesOf ps)) :
    Takes (textIndex >>= f) b (bytesOf (.text index :: ps)) :=
  (takes_textIndex index).bind h

theorem takes_number {f : UInt16 → Decoder α} {v : UInt16} (h : Takes (f v) b (bytesOf ps)) :
    Takes (u2 >>= f) b (bytesOf (.number v :: ps)) :=
  (takes_u2 v).bind h

theorem takes_other {f : Bytes → Decoder α} {bs : Bytes} {n : Nat} (hn : bs.length = n)
    (h : Takes (f bs) b (bytesOf ps)) : Takes (bytes n >>= f) b (bytesOf (.other bs :: ps)) :=
  (takes_bytes hn).bind h

theorem takes_counted {f : UInt16 → Decoder α} {n : Nat} (hn : n ≤ 65535)
    (h : ∀ count : UInt16, count.toNat = n → Takes (f count) b (bytesOf ps)) :
    Takes (u2 >>= f) b (bytesOf (counted n ps)) :=
  Takes.afterCount hn h

theorem takes_shortCounted {f : UInt8 → Decoder α} {n : Nat} (hn : n ≤ 255)
    (h : ∀ count : UInt8, count.toNat = n → Takes (f count) b (bytesOf ps)) :
    Takes (u1 >>= f) b (bytesOf (shortCounted n ps)) :=
  Takes.afterShortCount hn h

theorem Gives.several {xs : List α} {p : α → List PayloadPart} (h : ∀ x ∈ xs, Gives d (p x)) :
    Gives (several xs.length d) (xs.flatMap p) := by
  rw [Gives, operandsOf_flatMap, bytesOf_flatMap, List.flatMap_def, ← join_eq_flatten]
  refine (Takes.repeated h).last ?_
  exact Takes.pure _

theorem Gives.counted {xs : List α} {p : α → List PayloadPart} (hn : xs.length ≤ 65535)
    (h : ∀ x ∈ xs, Gives d (p x)) :
    Gives (u2 >>= fun count => Operands.several count.toNat d)
      (PayloadPart.counted xs.length (xs.flatMap p)) := by
  refine takes_counted hn ?_
  intro count hcount
  rw [hcount]
  exact Gives.several h

theorem Gives.shortCounted {xs : List α} {p : α → List PayloadPart} (hn : xs.length ≤ 255)
    (h : ∀ x ∈ xs, Gives d (p x)) :
    Gives (u1 >>= fun count => Operands.several count.toNat d)
      (PayloadPart.shortCounted xs.length (xs.flatMap p)) := by
  refine takes_shortCounted hn ?_
  intro count hcount
  rw [hcount]
  exact Gives.several h

end Parts

/-! ### Annotations -/

section Annotations

variable {value : Decoder (List UInt16)} {ps qs : List PayloadPart}

theorem gives_element (name : UInt16) (h : Gives value ps) :
    Gives (do
      let name ← textIndex
      let operands ← value
      return name ++ operands) (.text name :: ps) := by
  refine takes_text (Takes.last h ?_)
  exact Takes.pure _

/-- An annotation is found when the values of its elements are. -/
theorem gives_annotationTree (a : AnnotationTree) (hcount : a.elements.length ≤ 65535)
    (h : ∀ e ∈ a.elements, Gives value e.2.parts) : Gives (annotationOperands value) a.parts := by
  rw [AnnotationTree.parts, ElementValue.elementParts_eq_flatMap]
  have helements := Gives.several (p := fun e : UInt16 × ElementValue => .text e.1 :: e.2.parts)
    fun e he => gives_element e.1 (h e he)
  refine takes_text (takes_counted hcount ?_)
  intro count hn
  rw [hn]
  refine Takes.last helements ?_
  exact Takes.pure _

theorem takes_tag {letter : Char} {f : UInt8 → Decoder (List UInt16)}
    (h : Gives (f letter.toUInt8) ps) : Gives (u1 >>= f) (ElementValue.tag letter :: ps) :=
  (takes_u1 letter.toUInt8).bind h

/-- The tag of a value takes a byte. -/
theorem exists_depth {letter : Char} {depth : Nat}
    (h : (bytesOf (ElementValue.tag letter :: ps)).length ≤ depth) :
    ∃ d, depth = d + 1 ∧ (bytesOf ps).length ≤ d := by
  rw [bytesOf_cons, List.length_append] at h
  have htag : (ElementValue.tag letter).bytes.length = 1 := rfl
  exact ⟨depth - 1, by omega, by omega⟩

/-- A value is found by a reader that may go as deep as the value has bytes. -/
theorem gives_elementValue {v : ElementValue} (hv : v.Fits) {depth : Nat}
    (hdepth : (bytesOf v.parts).length ≤ depth) : Gives (elementValue depth) v.parts := by
  induction hv generalizing depth with
  | number type index =>
    obtain ⟨d, rfl, -⟩ := exists_depth hdepth
    have hindex : Takes (u2 >>= fun _ => pure []) ([] : List UInt16) (bytesOf [.number index]) :=
      takes_number (Takes.pure [])
    cases type <;> exact takes_tag hindex
  | string text =>
    obtain ⟨d, rfl, -⟩ := exists_depth hdepth
    exact takes_tag (gives_text text)
  | classLiteral descriptor =>
    obtain ⟨d, rfl, -⟩ := exists_depth hdepth
    exact takes_tag (gives_text descriptor)
  | enumConstant type name =>
    obtain ⟨d, rfl, -⟩ := exists_depth hdepth
    exact takes_tag (gives_element type (gives_text name))
  | @nested type elements hcount hall ih =>
    -- The tag takes a byte, so one level less is still enough for the values inside.
    obtain ⟨d, rfl, hd⟩ := exists_depth hdepth
    refine takes_tag (gives_annotationTree ⟨type, elements⟩ hcount ?_)
    intro e he
    have hsub : e.2.parts.Sublist (AnnotationTree.parts ⟨type, elements⟩) :=
      AnnotationTree.parts_sublist he
    exact ih e he (Nat.le_trans (length_bytesOf_le hsub) hd)
  | @array values hcount hall ih =>
    obtain ⟨d, rfl, hd⟩ := exists_depth hdepth
    rw [ElementValue.valueParts_eq_flatMap] at hd
    rw [ElementValue.parts, ElementValue.valueParts_eq_flatMap]
    refine takes_tag (Gives.counted hcount ?_)
    intro v hv
    have hsub : v.parts.Sublist (counted values.length (values.flatMap ElementValue.parts)) :=
      (sublist_flatMap_of_mem hv _).cons _
    exact ih v hv (Nat.le_trans (length_bytesOf_le hsub) hd)

/-- The reader finds every value whose parts stand among the given ones. -/
def Finds (value : Decoder (List UInt16)) (ps : List PayloadPart) : Prop :=
  ∀ v : ElementValue, v.Fits → v.parts.Sublist ps → Gives value v.parts

theorem finds_elementValue {depth : Nat} (h : (bytesOf ps).length ≤ depth) :
    Finds (elementValue depth) ps := by
  intro v hv hsub
  exact gives_elementValue hv (Nat.le_trans (length_bytesOf_le hsub) h)

theorem Finds.of_sublist (h : Finds value qs) (hsub : ps.Sublist qs) : Finds value ps := by
  intro v hv hps
  exact h v hv (hps.trans hsub)

theorem Finds.part {α : Type} {xs : List α} {x : α} {p : α → List PayloadPart}
    {count : PayloadPart} (h : Finds value (count :: xs.flatMap p)) (hx : x ∈ xs) :
    Finds value (p x) :=
  h.of_sublist ((sublist_flatMap_of_mem hx p).cons count)

theorem Finds.givesAnnotationTree {a : AnnotationTree} (h : Finds value a.parts) (ha : a.Fits) :
    Gives (annotationOperands value) a.parts := by
  refine gives_annotationTree a ha.count ?_
  intro e he
  exact h e.2 (ha.values e he) (AnnotationTree.parts_sublist he)

/-! ### Type annotations -/

theorem takes_skip (bs : Bytes) : Takes (do let _ ← bytes bs.length) () bs :=
  (takes_bytes rfl).last (Takes.pure ())

/-- The targets of every kind take as many bytes as the reader skips. -/
theorem takes_target {target : TypeTarget} (htarget : target.Fits) :
    Takes typeTarget () target.encode := by
  cases target with
  | typeParameter ofMethod index =>
    cases ofMethod <;> exact (takes_u1 _).bind (takes_skip [index])
  | typeParameterBound ofMethod parameter bound =>
    cases ofMethod <;> exact (takes_u1 _).bind (takes_skip [parameter, bound])
  | formalParameter index => exact (takes_u1 _).bind (takes_skip [index])
  | field | result | receiver => exact (takes_u1 _).bind (takes_skip [])
  | supertype v | throws v | exceptionParameter v | instanceOf v | newObject v
  | constructorReference v | methodReference v =>
    exact (takes_u1 _).bind (takes_skip (Bytes.ofUInt16 v))
  | cast pc index | constructorCallArgument pc index | methodCallArgument pc index
  | constructorReferenceArgument pc index | methodReferenceArgument pc index =>
    exact (takes_u1 _).bind (takes_skip (Bytes.ofUInt16 pc ++ [index]))
  | localVariable isResource ranges =>
    have hwidth : ∀ r, (TypeTarget.encodeRange r).length = 6 := fun _ => rfl
    have hsize := Bytes.length_flatMap_of_width hwidth ranges
    have hranges : ∀ count : UInt16, count.toNat = ranges.length →
        Takes (do let _ ← bytes (count.toNat * 6)) () (ranges.flatMap TypeTarget.encodeRange) := by
      intro count hcount
      rw [hcount, Nat.mul_comm, ← hsize]
      exact takes_skip _
    cases isResource <;> exact (takes_u1 _).bind (Takes.afterCount htarget hranges)

theorem Finds.givesTypeAnnotationTree {a : TypeAnnotationTree} (h : Finds value a.parts)
    (ha : a.Fits) : Gives (typeAnnotationOperands value) a.parts := by
  have hsub : a.content.parts.Sublist a.parts := (List.sublist_append_right _ _).cons _
  have hcontent : Gives (annotationOperands value) a.content.parts :=
    (h.of_sublist hsub).givesAnnotationTree ha.content
  have hwidth : ∀ step : UInt8 × UInt8, [step.1, step.2].length = 2 := fun _ => rfl
  have hsteps := Bytes.length_flatMap_of_width hwidth a.path
  refine (takes_target ha.target).bind (takes_shortCounted ha.path ?_)
  intro count hcount
  rw [hcount, Nat.mul_comm]
  exact takes_other hsteps hcontent

end Annotations

/-! ### Attributes without attributes inside -/

section Bodies

variable {value : Decoder (List UInt16)}

theorem takes_twoNumbers {α : Type} {f : Bytes → Decoder α} {b : α} {v w : UInt16}
    {ps : List PayloadPart} (h : ∀ bs, Takes (f bs) b (bytesOf ps)) :
    Takes (bytes 4 >>= f) b (bytesOf (.number v :: .number w :: ps)) := by
  rw [bytesOf_cons, bytesOf_cons, ← List.append_assoc]
  exact (takes_bytes rfl).bind (h _)

theorem gives_innerClass (c : InnerClass) :
    Gives (do
      let _ ← bytes 4
      let name ← textIndex
      let _ ← u2
      return name) c.parts := by
  have hoperands : operandsOf c.parts = (PayloadPart.text c.name).operands := by
    simp [InnerClass.parts]
  rw [Gives, hoperands]
  refine takes_twoNumbers fun _ => takes_text (takes_number ?_)
  exact Takes.pure _

theorem gives_localVariable (v : LocalVariable) :
    Gives (do
      let _ ← bytes 4
      let name ← textIndex
      let type ← textIndex
      let _ ← u2
      return name ++ type) v.parts := by
  have hoperands : operandsOf v.parts =
      (PayloadPart.text v.name).operands ++ (PayloadPart.text v.type).operands := by
    simp [LocalVariable.parts]
  rw [Gives, hoperands]
  refine takes_twoNumbers fun _ => takes_text (takes_text (takes_number ?_))
  exact Takes.pure _

theorem gives_methodParameter (p : MethodParameter) :
    Gives (do
      let name ← textIndex
      let _ ← u2
      return name) p.parts := by
  have hoperands : operandsOf p.parts = (PayloadPart.text p.name).operands := by
    simp [MethodParameter.parts]
  rw [Gives, hoperands]
  refine takes_text (takes_number ?_)
  exact Takes.pure _

theorem Finds.givesAnnotationTrees {as : List AnnotationTree}
    (h : Finds value (AttributeBody.annotationParts as)) (hcount : as.length ≤ 65535)
    (hall : ∀ a ∈ as, a.Fits) :
    Gives (u2 >>= fun count => several count.toNat (annotationOperands value))
      (AttributeBody.annotationParts as) := by
  refine Gives.counted hcount ?_
  intro a ha
  exact (h.part ha).givesAnnotationTree (hall a ha)

/-- The reader of a name finds the operands of the payloads with that name. -/
theorem gives_payload {body : AttributeBody} (hbody : body.Fits) (h : Finds value body.parts)
    (nested : Attribute → Except FormatError (List UInt16)) :
    Gives (payload (.ofName body.name) value nested) body.parts := by
  cases hbody with
  | sourceFile name => exact gives_text name
  | signature text => exact gives_text text
  | innerClasses hcount => exact Gives.counted hcount fun c _ => gives_innerClass c
  | localVariableTable hcount | localVariableTypeTable hcount =>
    exact Gives.counted hcount fun v _ => gives_localVariable v
  | methodParameters hcount => exact Gives.shortCounted hcount fun p _ => gives_methodParameter p
  | @annotations visible as hcount hall =>
    cases visible <;> exact Finds.givesAnnotationTrees h hcount hall
  | @parameterAnnotations visible parameters hcount hcounts hall =>
    have hparameter : ∀ as ∈ parameters, Gives
        (u2 >>= fun count => several count.toNat (annotationOperands value))
        (AttributeBody.annotationParts as) := by
      intro as has
      exact (h.part has).givesAnnotationTrees (hcounts as has) (hall as has)
    cases visible <;> exact Gives.shortCounted hcount hparameter
  | @typeAnnotations visible as hcount hall =>
    have hcontent : ∀ a ∈ as, Gives (typeAnnotationOperands value) a.parts := by
      intro a ha
      exact (h.part ha).givesTypeAnnotationTree (hall a ha)
    cases visible <;> exact Gives.counted hcount hcontent
  | annotationDefault hvalue => exact h _ hvalue (List.Sublist.refl _)

end Bodies

end Operands

/-! ### Attributes with attributes inside -/

namespace AttributeTree

open Decoder PayloadPart Operands

variable {pool : Pool} {nested : Attribute → Except FormatError (List UInt16)}

/-- How an attribute inside another one is laid out. -/
def blockParts (a : AttributeTree) : List PayloadPart :=
  .name a.nameIndex :: .other (Bytes.ofUInt32 (UInt32.ofNat (bytesOf a.parts).length)) :: a.parts

theorem attributeParts_eq_flatMap (as : List AttributeTree) :
    attributeParts as = as.flatMap blockParts := by
  induction as with
  | nil => rfl
  | cons a as ih =>
    rw [List.flatMap_cons, ← ih, attributeParts]
    rfl

/-- How a component of a record is laid out. -/
def rowParts (c : UInt16 × UInt16 × List AttributeTree) : List PayloadPart :=
  .text c.1 :: .text c.2.1 :: counted c.2.2.length (attributeParts c.2.2)

theorem componentParts_eq_flatMap (cs : List (UInt16 × UInt16 × List AttributeTree)) :
    componentParts cs = cs.flatMap rowParts := by
  induction cs with
  | nil => rfl
  | cons c cs ih =>
    rw [List.flatMap_cons, ← ih, componentParts]
    rfl

theorem bytesOf_blockParts (a : AttributeTree) : bytesOf a.blockParts = a.toAttribute.encode := by
  rw [blockParts, bytesOf_cons, bytesOf_cons, Attribute.encode, List.append_assoc]
  rfl

theorem bytesOf_counted_blocks (as : List AttributeTree) :
    bytesOf (PayloadPart.counted as.length (attributeParts as)) =
      Attribute.encodeList (as.map toAttribute) := by
  rw [attributeParts_eq_flatMap, PayloadPart.counted, bytesOf_cons, bytesOf_flatMap,
    Attribute.encodeList, List.length_map, List.flatMap_map]
  simp only [bytesOf_blockParts]
  rfl

theorem operandsOf_counted_blocks (as : List AttributeTree) :
    operandsOf (PayloadPart.counted as.length (attributeParts as)) =
      (as.map operands).flatten := by
  rw [attributeParts_eq_flatMap, PayloadPart.counted, operandsOf_cons, operandsOf_flatMap,
    List.flatMap_def]
  rfl

theorem operandsOf_rowParts (c : UInt16 × UInt16 × List AttributeTree) :
    operandsOf (rowParts c) = (PayloadPart.text c.1).operands ++
      (PayloadPart.text c.2.1).operands ++ (c.2.2.map operands).flatten := by
  rw [rowParts, operandsOf_cons, operandsOf_cons, operandsOf_counted_blocks, List.append_assoc]

/-! The operands of an attribute with attributes inside are those of the latter, with their
names. -/

theorem operands_record (nameIndex : UInt16) (cs : List (UInt16 × UInt16 × List AttributeTree)) :
    (record nameIndex cs).operands = nameIndex :: cs.flatMap fun c =>
      (PayloadPart.text c.1).operands ++ (PayloadPart.text c.2.1).operands ++
        (c.2.2.map operands).flatten := by
  rw [operands, parts, PayloadPart.counted, operandsOf_cons, componentParts_eq_flatMap,
    operandsOf_flatMap]
  simp only [operandsOf_rowParts]
  rfl

theorem operands_code (nameIndex maxStack maxLocals : UInt16) (bytecode : Bytes)
    (handlers : List Handler) (as : List AttributeTree) :
    (code nameIndex maxStack maxLocals bytecode handlers as).operands =
      nameIndex :: (as.map operands).flatten := by
  rw [operands, parts, operandsOf_cons, operandsOf_cons, operandsOf_cons, operandsOf_append,
    operandsOf_counted_blocks]
  rfl

theorem operands_unknown (nameIndex : UInt16) (payload : Bytes) :
    (unknown nameIndex payload).operands = [nameIndex] := rfl

/-- Attributes inside a component are found when the operands of each can be. -/
theorem gives_nestedAttributes {as : List AttributeTree} (has : ListFits as)
    (h : ∀ a ∈ as, nested a.toAttribute = .ok a.operands) :
    Gives (nestedAttributes nested)
      (PayloadPart.counted as.length (attributeParts as)) := by
  have hcount : as.length ≤ 65535 := by simpa using has.length_le
  rw [attributeParts_eq_flatMap]
  refine Gives.counted hcount ?_
  intro a ha
  have hread : Takes Attribute.read a.toAttribute (bytesOf a.blockParts) := by
    rw [bytesOf_blockParts]
    exact Attribute.reads_read.takes ⟨has.valid _ (List.mem_map_of_mem ha), rfl⟩
  refine Takes.last hread ?_
  intro position rest
  rw [h a ha]
  rfl

theorem gives_row {c : UInt16 × UInt16 × List AttributeTree} (hc : ListFits c.2.2)
    (h : ∀ a ∈ c.2.2, nested a.toAttribute = .ok a.operands) :
    Gives (do
      let name ← textIndex
      let descriptor ← textIndex
      let operands ← nestedAttributes nested
      return name ++ descriptor ++ operands) (rowParts c) := by
  rw [Gives, operandsOf_rowParts, ← operandsOf_counted_blocks]
  refine takes_text (takes_text (Takes.last (gives_nestedAttributes hc h) ?_))
  exact Takes.pure _

theorem gives_record (value : Decoder (List UInt16)) {nameIndex : UInt16}
    {cs : List (UInt16 × UInt16 × List AttributeTree)} (hcount : cs.length ≤ 65535)
    (hlists : ∀ c ∈ cs, ListFits c.2.2)
    (h : ∀ c ∈ cs, ∀ a ∈ c.2.2, nested a.toAttribute = .ok a.operands) :
    Gives (payload .record value nested) (record nameIndex cs).parts := by
  rw [parts, componentParts_eq_flatMap]
  exact Gives.counted hcount fun c hc => gives_row (hlists c hc) (h c hc)

theorem mapM_toAttribute {as : List AttributeTree}
    (h : ∀ a ∈ as, nested a.toAttribute = .ok a.operands) :
    (as.map toAttribute).mapM nested = .ok (as.map operands) := by
  induction as with
  | nil => rfl
  | cons a as ih =>
    have hrest := ih fun b hb => h b (List.mem_cons_of_mem a hb)
    exact mapM_cons_eq_ok_iff.2 ⟨_, _, h a List.mem_cons_self, hrest, rfl⟩

theorem gives_code (value : Decoder (List UInt16)) {nameIndex maxStack maxLocals : UInt16}
    {bytecode : Bytes} {handlers : List Handler} {as : List AttributeTree}
    (hsize : bytecode.length < 2 ^ 32) (hcount : handlers.length ≤ 65535) (has : ListFits as)
    (h : ∀ a ∈ as, nested a.toAttribute = .ok a.operands) :
    Gives (payload .code value nested)
      (code nameIndex maxStack maxLocals bytecode handlers as).parts := by
  let c : Code := ⟨maxStack, maxLocals, bytecode, handlers, as.map toAttribute⟩
  have hbytes : bytesOf (code nameIndex maxStack maxLocals bytecode handlers as).parts =
      c.encode := by
    rw [parts, bytesOf_cons, bytesOf_cons, bytesOf_cons, bytesOf_append, bytesOf_counted_blocks]
    simp [Code.encode, c]
  have hoperands : operandsOf (code nameIndex maxStack maxLocals bytecode handlers as).parts =
      (as.map operands).flatten :=
    (List.cons.inj (operands_code nameIndex maxStack maxLocals bytecode handlers as)).2
  have hread : Takes Code.read c c.encode :=
    Code.reads_read.takes ⟨⟨hsize, hcount, has⟩, rfl⟩
  rw [Gives, hbytes, hoperands, ← join_eq_flatten]
  refine Takes.last hread ?_
  intro position rest
  rw [mapM_toAttribute h]
  rfl

theorem ofName_eq_plain {name : String} (h : name ∉ knownNames) :
    AttributeLayout.ofName name = .plain := by
  have hnames : AttributeLayout.ofName.table.map Prod.fst = knownNames := rfl
  have hnone : AttributeLayout.ofName.table.find? (·.1 == name) = none := by
    rw [List.find?_eq_none]
    intro row hrow heq
    have hmem : row.1 ∈ knownNames := hnames ▸ List.mem_map_of_mem hrow
    exact h (beq_iff_eq.1 heq ▸ hmem)
  rw [AttributeLayout.ofName, hnone]
  rfl

/-- The names that are not known include the name that is not there. -/
theorem ofName_text?_eq_plain {nameIndex : UInt16}
    (h : ∀ name ∈ knownNames, pool.text? nameIndex ≠ some name) :
    AttributeLayout.ofName ((pool.text? nameIndex).getD "") = .plain := by
  refine ofName_eq_plain ?_
  cases htext : pool.text? nameIndex with
  | none => decide
  | some name =>
    intro hknown
    exact h name hknown htext

theorem length_parts_lt {as : List AttributeTree} {a : AttributeTree} (ha : a ∈ as) :
    (bytesOf a.parts).length < (bytesOf (attributeParts as)).length := by
  have hblock : (bytesOf a.parts).length < (bytesOf a.blockParts).length := by
    rw [blockParts, bytesOf_cons, bytesOf_cons, List.length_append, List.length_append]
    have hname : (PayloadPart.name a.nameIndex).bytes.length = 2 := rfl
    omega
  rw [attributeParts_eq_flatMap]
  exact Nat.lt_of_lt_of_le hblock (length_bytesOf_le (sublist_flatMap_of_mem ha blockParts))

/-- What is read from the payload comes after the name. -/
theorem ofAttribute_of_gives {a : AttributeTree} {name : String} {depth : Nat}
    (hname : pool.text? a.nameIndex = some name)
    (h : Gives (payload (.ofName name) (elementValue (bytesOf a.parts).length)
      (ofAttribute pool depth)) a.parts) :
    ofAttribute pool (depth + 1) a.toAttribute = .ok a.operands := by
  rw [ofAttribute_succ, show a.toAttribute.nameIndex = a.nameIndex from rfl, hname]
  rw [show a.toAttribute.payload = bytesOf a.parts from rfl, Option.getD_some, Takes.decode h]
  rfl

/-- The operands of an attribute that stands for a tree are those of the tree, once the reader may
go deep enough. -/
theorem ofAttribute_toAttribute {a : AttributeTree} (ha : a.Valid pool) {depth : Nat}
    (hdepth : (bytesOf a.parts).length < depth) :
    ofAttribute pool depth a.toAttribute = .ok a.operands := by
  induction ha generalizing depth with
  | @leaf nameIndex body hname hbody =>
    obtain ⟨d, rfl⟩ := Nat.exists_eq_add_of_lt hdepth
    refine ofAttribute_of_gives hname ?_
    exact gives_payload hbody (finds_elementValue (Nat.le_refl _)) _
  | @record nameIndex components hname hcount hlists hall ih =>
    -- An attribute inside is shorter than the payload around it, by its own name and size at least.
    obtain ⟨d, rfl⟩ := Nat.exists_eq_add_of_lt hdepth
    refine ofAttribute_of_gives hname ?_
    refine gives_record _ hcount hlists ?_
    intro c hc a ha
    have hrow : (attributeParts c.2.2).Sublist (rowParts c) :=
      (((List.Sublist.refl _).cons _).cons _).cons _
    have hsub : (attributeParts c.2.2).Sublist (record nameIndex components).parts := by
      rw [parts, componentParts_eq_flatMap]
      exact (hrow.trans (sublist_flatMap_of_mem hc rowParts)).cons _
    have hlt := length_parts_lt ha
    have hle := length_bytesOf_le hsub
    exact ih c hc a ha (by omega)
  | @code nameIndex maxStack maxLocals bytecode handlers attributes hname hsize hcount hlist hall
      ih =>
    obtain ⟨d, rfl⟩ := Nat.exists_eq_add_of_lt hdepth
    refine ofAttribute_of_gives hname ?_
    refine gives_code _ hsize hcount hlist ?_
    intro a ha
    have hlast : (attributeParts attributes).Sublist
        (counted attributes.length (attributeParts attributes)) := List.sublist_cons_self _ _
    have hsub : (attributeParts attributes).Sublist
        (code nameIndex maxStack maxLocals bytecode handlers attributes).parts :=
      (((hlast.trans (List.sublist_append_right _ _)).cons _).cons _).cons _
    have hlt := length_parts_lt ha
    have hle := length_bytesOf_le hsub
    exact ih a ha (by omega)
  | @unknown nameIndex payload hname =>
    obtain ⟨d, rfl⟩ := Nat.exists_eq_add_of_lt hdepth
    rw [ofAttribute_succ]
    change Except.map _ ((Operands.payload
      (.ofName ((pool.text? nameIndex).getD "")) _ _).decode _) = _
    rw [ofName_text?_eq_plain hname]
    rfl

/-- **Operands are found exactly.**  The operands of an attribute that stands for a tree are those
of the tree, in the order of its layout. -/
theorem operands_toAttribute {a : AttributeTree} (ha : a.Valid pool) :
    a.toAttribute.operands pool = .ok a.operands :=
  ofAttribute_toAttribute ha (Nat.lt_succ_self _)

/-- Names and texts of an annotated method. -/
def annotatedPool : Pool :=
  ⟨#[.utf8 (.encoded "Code"), .utf8 (.encoded "LocalVariableTable"),
    .utf8 (.encoded "RuntimeVisibleTypeAnnotations"), .utf8 (.encoded "LineNumberTable"),
    .utf8 (.encoded "text"), .utf8 (.encoded "LText;"), .utf8 (.encoded "LNote;"),
    .utf8 (.encoded "value"), .utf8 (.encoded "Hello")]⟩

/-- The code of a method with two local variables, one of them without a name, an annotation of the
type of the other, and a table of lines. -/
def annotatedCode : AttributeTree :=
  code 1 1 2 [0xB1] [⟨0, 1, 0, 0⟩]
    [leaf 2 (.localVariableTable [⟨0, 1, 5, 6, 1⟩, ⟨0, 1, 0, 6, 0⟩]),
      leaf 3 (.typeAnnotations true [⟨.localVariable false [(0, 1, 1)], [(3, 0)], note⟩]),
      unknown 4 [0x00, 0x00]]
where
  note : AnnotationTree :=
    ⟨7, [(8, .array [.string 9, .nested 7 [(8, .number .int 9)], .enumConstant 7 9])]⟩

theorem valid_annotatedCode : annotatedCode.Valid annotatedPool := by
  have hnote : annotatedCode.note.Fits := by
    refine ⟨by decide, ?_⟩
    intro e he
    obtain rfl := List.mem_singleton.1 he
    refine .array (by decide) ?_
    intro v hv
    fin_cases hv
    · exact .string 9
    · refine .nested (by decide) ?_
      intro e he
      obtain rfl := List.mem_singleton.1 he
      exact .number .int 9
    · exact .enumConstant 7 9
  have hlist : ListFits [
      leaf 2 (.localVariableTable [⟨0, 1, 5, 6, 1⟩, ⟨0, 1, 0, 6, 0⟩]),
      leaf 3 (.typeAnnotations true
        [⟨.localVariable false [(0, 1, 1)], [(3, 0)], annotatedCode.note⟩]),
      unknown 4 [0x00, 0x00]] := ⟨by decide, by decide⟩
  refine .code (by decide +kernel) (by decide) (by decide) hlist ?_
  intro a ha
  fin_cases ha
  · exact .leaf (by decide +kernel) (.localVariableTable (by decide))
  · refine .leaf (by decide +kernel) (.typeAnnotations (by decide) ?_)
    intro b hb
    obtain rfl := List.mem_singleton.1 hb
    have hranges : [((0 : UInt16), (1 : UInt16), (1 : UInt16))].length ≤ 65535 := by decide
    exact ⟨hranges, by decide, hnote⟩
  · exact .unknown (by decide +kernel)

theorem operands_toAttribute_annotatedCode :
    annotatedCode.Valid annotatedPool ∧
      annotatedCode.toAttribute.operands annotatedPool =
        .ok [1, 2, 5, 6, 6, 3, 7, 8, 9, 7, 8, 7, 9, 4] :=
  ⟨valid_annotatedCode, operands_toAttribute valid_annotatedCode⟩

end AttributeTree
end ClassLiterals
