import ClassLiterals.Proofs.Class.Operands
import ClassLiterals.Proofs.Rewrite.Replacements

/-!
# What a rewrite keeps

A class uses entries of its pool for more than string constants: as names and descriptors, and as
operands of attributes. A rewrite keeps the slots of all these entries, and the slots that hold
anything but a text. So the class has the same members with the same names, its attributes are found
under the same names, and its own name stays.

Main results: `mem_structuralIndices_iff` and `rewriteClass_keepsStructure`.
-/

namespace ClassLiterals

/-! ## Structural uses -/

namespace ClassFile

variable {f : VisibilityFilter} {d : Dictionary} {c : ClassFile} {p : Pool} {i : UInt16}

/-- The ways to use an index for something else than the text of a string constant. -/
inductive UsesStructurally (c : ClassFile) : UInt16 → Prop where
  /-- A constant that is no string constant refers to it. -/
  | constant {j i : UInt16} {k : Constant} (hk : c.pool.get? j = some k)
      (hstring : ∀ text, k ≠ .string text) (hi : i ∈ k.references) : UsesStructurally c i
  /-- It is the name of a field or a method. -/
  | memberName {m : Member} (hm : m ∈ c.members) : UsesStructurally c m.nameIndex
  /-- It is the descriptor of a field or a method. -/
  | memberDescriptor {m : Member} (hm : m ∈ c.members) : UsesStructurally c m.descriptorIndex
  /-- It is the name of an attribute of the class, of a field or of a method. -/
  | attributeName {a : Attribute} (ha : a ∈ c.allAttributes) : UsesStructurally c a.nameIndex
  /-- It is one of the operands of such an attribute, which may be those of attributes inside. -/
  | operand {a : Attribute} {is : List UInt16} {i : UInt16} (ha : a ∈ c.allAttributes)
      (his : a.operands c.pool = .ok is) (hi : i ∈ is) : UsesStructurally c i

theorem mem_allAttributes_of_method {m : Member} (hm : m ∈ c.methods) {a : Attribute}
    (ha : a ∈ m.attributes) : a ∈ c.allAttributes :=
  List.mem_append_right _ (List.mem_flatMap.2 ⟨m, List.mem_append_right _ hm, ha⟩)

theorem nameIndex_mem_knownOperands (p : Pool) (a : Attribute) :
    a.nameIndex ∈ knownOperands p a := by
  rw [knownOperands]
  cases h : a.operands p with
  | error e => exact List.mem_singleton_self _
  | ok is => exact Attribute.nameIndex_mem_of_operands h

theorem mem_constantReferences_iff (hc : c.WellFormed) :
    i ∈ c.constantReferences ↔
      ∃ j k, c.pool.get? j = some k ∧ (∀ text, k ≠ .string text) ∧ i ∈ k.references := by
  rw [constantReferences, List.mem_flatMap]
  constructor
  · rintro ⟨⟨j, k⟩, hmem, hi⟩
    refine ⟨j, k, (Pool.mem_entries_iff hc.pool).1 hmem, ?_, ?_⟩
    · rintro text rfl
      cases hi
    · cases k <;> first | exact hi | cases hi
  · rintro ⟨j, k, hget, hstring, hi⟩
    refine ⟨(j, k), (Pool.mem_entries_iff hc.pool).2 hget, ?_⟩
    cases k <;> first | exact hi | exact absurd rfl (hstring _)

/-- The structural indices are those that the class uses structurally. -/
theorem mem_structuralIndices_iff (hc : c.WellFormed) :
    i ∈ c.structuralIndices ↔ c.UsesStructurally i := by
  rw [structuralIndices, List.mem_append, List.mem_append, mem_constantReferences_iff hc,
    memberReferences, List.mem_flatMap, List.mem_flatMap]
  constructor
  · rintro ((⟨j, k, hk, hstring, hi⟩ | ⟨m, hm, hi⟩) | ⟨a, ha, hi⟩)
    · exact .constant hk hstring hi
    · rcases List.mem_pair.1 hi with rfl | rfl
      · exact .memberName hm
      · exact .memberDescriptor hm
    · rw [knownOperands] at hi
      cases his : a.operands c.pool with
      | error e =>
        rw [his] at hi
        rw [List.mem_singleton.1 hi]
        exact .attributeName ha
      | ok is =>
        rw [his] at hi
        exact .operand ha his hi
  · intro h
    cases h with
    | constant hk hstring hi => exact .inl (.inl ⟨_, _, hk, hstring, hi⟩)
    | memberName hm => exact .inl (.inr ⟨_, hm, List.mem_pair.2 (.inl rfl)⟩)
    | memberDescriptor hm => exact .inl (.inr ⟨_, hm, List.mem_pair.2 (.inr rfl)⟩)
    | attributeName ha => exact .inr ⟨_, ha, nameIndex_mem_knownOperands c.pool _⟩
    | operand ha his hi => exact .inr ⟨_, ha, by rwa [knownOperands, his]⟩

/-! ## What a rewrite keeps -/

namespace RewrittenPool

theorem slot?_of_uses (h : c.RewrittenPool f d p) (hc : c.WellFormed) (hi : c.UsesStructurally i) :
    p.slot? i = c.pool.slot? i :=
  h.slot?_of_structural ((mem_structuralIndices_iff hc).2 hi)

theorem name_eq (h : c.RewrittenPool f d p) (hc : c.WellFormed) {m : Member} (hm : m ∈ c.members) :
    m.name p = m.name c.pool :=
  Pool.expectText_congr (h.slot?_of_uses hc (.memberName hm))

theorem descriptor_eq (h : c.RewrittenPool f d p) (hc : c.WellFormed) {m : Member}
    (hm : m ∈ c.members) : m.descriptor p = m.descriptor c.pool :=
  Pool.expectText_congr (h.slot?_of_uses hc (.memberDescriptor hm))

/-- Neither a class constant nor its name is rewritten. -/
theorem expectClassName_eq_ok (h : c.RewrittenPool f d p) (hc : c.WellFormed) {text : String}
    (hname : c.pool.expectClassName i = .ok text) : p.expectClassName i = .ok text := by
  rw [Pool.expectClassName] at hname
  split at hname
  · rename_i nameIndex hget
    have hslot : p.get? i = some (.classRef nameIndex) := by
      have htext : c.pool.text? i = none := by rw [Pool.text?, hget]
      rw [Pool.get?_congr (h.slot?_of_text?_eq_none htext), hget]
    have huse : c.UsesStructurally nameIndex :=
      .constant hget (by simp) (List.mem_singleton_self nameIndex)
    rw [Pool.expectClassName, hslot]
    dsimp only
    rw [Pool.expectText_congr (h.slot?_of_uses hc huse), hname]
  · cases hname
  · cases hname

end RewrittenPool

/-- `c'` is `c` but for texts that `c` uses for string constants only. -/
structure KeepsStructure (c c' : ClassFile) : Prop where
  fields : c'.fields = c.fields
  methods : c'.methods = c.methods
  attributes : c'.attributes = c.attributes
  /-- The slots that are used structurally hold what they held. -/
  slots : ∀ i, c.UsesStructurally i → c'.pool.slot? i = c.pool.slot? i
  /-- Looking up the name of a member has the same outcome, be it a name or an error. -/
  memberNames : ∀ m ∈ c.members, m.name c'.pool = m.name c.pool
  memberDescriptors : ∀ m ∈ c.members, m.descriptor c'.pool = m.descriptor c.pool
  name : ∀ text, c.name = .ok text → c'.name = .ok text
  superName : ∀ text, c.superName = .ok text → c'.superName = .ok text

theorem RewrittenPool.keepsStructure (h : c.RewrittenPool f d p) (hc : c.WellFormed) :
    c.KeepsStructure { c with pool := p } where
  fields := rfl
  methods := rfl
  attributes := rfl
  slots i hi := h.slot?_of_uses hc hi
  memberNames m hm := h.name_eq hc hm
  memberDescriptors m hm := h.descriptor_eq hc hm
  name text hname := h.expectClassName_eq_ok hc hname
  superName text hname := by
    rw [superName] at hname ⊢
    by_cases hzero : c.superClass = 0
    · rw [if_pos hzero] at hname ⊢
      exact hname
    · rw [if_neg hzero] at hname ⊢
      dsimp only
      cases hclass : c.pool.expectClassName c.superClass with
      | error e =>
        rw [hclass] at hname
        cases hname
      | ok className =>
        rw [hclass] at hname
        rw [h.expectClassName_eq_ok hc hclass]
        exact hname

/-- **A rewrite keeps the structure of a class**, whatever the filter and the dictionary. -/
theorem rewriteClass_keepsStructure {bs : Bytes} (h : parse bs = .ok c) (f : VisibilityFilter)
    (d : Dictionary) :
    ∃ r c', rewriteClass f d bs = .ok r ∧ parse r.bytes = .ok c' ∧ c.KeepsStructure c' := by
  obtain ⟨r, p, hr, hparse, hpool⟩ := rewriteClass_of_parse h f d
  exact ⟨r, { c with pool := p }, hr, hparse, hpool.keepsStructure (parse_eq_ok_iff.1 h).1⟩

/-- A class whose only method loads the text of entry 6, once through a string constant and once
directly, its own name, the name of the field and the name of the source file. -/
def greeting : ClassFile where
  minorVersion := 0
  majorVersion := 52
  pool := ⟨#[.utf8 (.encoded "Main"), .classRef 1, .utf8 (.encoded "run"), .utf8 (.encoded "()V"),
    .utf8 (.encoded "Code"), .utf8 (.encoded "Hello there"), .string 6, .string 3,
    .utf8 (.encoded "title"), .utf8 (.encoded "Ljava/lang/String;"), .nameAndType 9 10,
    .fieldRef 2 11, .utf8 (.encoded "SourceFile"), .utf8 (.encoded "Main.java")]⟩
  flags := ⟨0x0021⟩
  thisClass := 2
  superClass := 0
  interfaces := []
  fields := [⟨⟨0x0002⟩, 9, 10, [], Member.encodeParts ⟨0x0002⟩ 9 10 []⟩]
  methods := [⟨⟨0x0001⟩, 3, 4, [code], Member.encodeParts ⟨0x0001⟩ 3 4 [code]⟩]
  attributes := [⟨13, Bytes.ofUInt16 14⟩]
where
  code : Attribute :=
    ⟨5, Code.encode ⟨1, 1,
      [0x12, 0x07, 0x12, 0x06, 0x12, 0x08, 0x12, 0x09, 0x12, 0x0E, 0xB1], [], []⟩⟩

/-- A dictionary with other texts for the texts that `greeting` loads. -/
def french : Dictionary := fun text =>
  if text = "Hello there" then some "Bonjour à tous"
  else if text = "run" then some "courir"
  else if text = "title" then some "titre"
  else if text = "Main.java" then some "Principal.java"
  else none

theorem rewriteClass_keepsStructure_greeting :
    parse greeting.toBytes = .ok greeting ∧
      ∃ r c', rewriteClass ⟨2, []⟩ french greeting.toBytes = .ok r ∧ parse r.bytes = .ok c' ∧
        greeting.KeepsStructure c' :=
  ⟨by decide +kernel, rewriteClass_keepsStructure (by decide +kernel) ⟨2, []⟩ french⟩

end ClassFile
end ClassLiterals
