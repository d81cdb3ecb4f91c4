import ClassLiterals.Proofs.Rewrite.Structure

/-!
# Names of attributes inside code

The name of an attribute inside a `Code` attribute is one of the operands of the latter, so a
rewrite keeps it, provided that these operands can be read. When they cannot, because another
attribute inside is malformed, only the name `Code` itself is known to be used: then the rewrite
gives the name another text if a method loads it as a visible text with a replacement that fits, and
the class does not use it elsewhere.

Main result: `rewriteClass_namesInCode`.
-/

namespace ClassLiterals
namespace ClassFile

variable {f : VisibilityFilter} {d : Dictionary} {c : ClassFile} {p : Pool}

/-- `a` is an attribute named `Code` of the method `m`, and is decoded as `code`. -/
structure HasCode (c : ClassFile) (m : Member) (a : Attribute) (code : Code) : Prop where
  mem_methods : m ∈ c.methods
  mem_attributes : a ∈ m.attributes
  name_eq : c.pool.text? a.nameIndex = some "Code"
  decode_eq : Code.decode a.payload = .ok code

/-- The names inside a `Code` attribute whose operands can be read are used structurally. -/
theorem HasCode.usesStructurally {m : Member} {a : Attribute} {code : Code}
    (h : c.HasCode m a code) {is : List UInt16} (his : a.operands c.pool = .ok is) {n : Attribute}
    (hn : n ∈ code.attributes) : c.UsesStructurally n.nameIndex :=
  .operand (mem_allAttributes_of_method h.mem_methods h.mem_attributes) his
    (Attribute.nameIndex_mem_operands_of_code h.name_eq h.decode_eq hn his)

/-- What a rewrite of `c` to `c'` does to the names of the attributes inside code. -/
structure RewritesNamesInCode (f : VisibilityFilter) (d : Dictionary) (c c' : ClassFile) :
    Prop where
  methods : c'.methods = c.methods
  /-- The names stay when the operands of the `Code` attribute can be read. -/
  kept : ∀ m a code, c.HasCode m a code → (∃ is, a.operands c.pool = .ok is) →
    ∀ n ∈ code.attributes, c'.pool.text? n.nameIndex = c.pool.text? n.nameIndex
  /-- In any case they change when their entries are rewritten as those of string constants, and
  only then. -/
  changed : ∀ m a code, c.HasCode m a code → ∀ n ∈ code.attributes,
    (c'.pool.text? n.nameIndex ≠ c.pool.text? n.nameIndex ↔
      ∃ new, (∃ l ∈ c.loads, l.textIndex = n.nameIndex ∧ f.isVisible l.text = true ∧
          d l.text = some new ∧ new ≠ l.text) ∧
        ¬ c.UsesStructurally n.nameIndex ∧ Utf8.Fits new)

theorem RewrittenPool.rewritesNamesInCode (h : c.RewrittenPool f d p) (hc : c.WellFormed) :
    RewritesNamesInCode f d c { c with pool := p } where
  methods := rfl
  kept m a code hcode := by
    rintro ⟨is, his⟩ n hn
    exact Pool.text?_congr (h.slot?_of_uses hc (hcode.usesStructurally his hn))
  changed m a code _ n _ := by
    rw [h.text?_ne_iff]
    refine exists_congr fun new => ?_
    rw [← mem_structuralIndices_iff hc]
    exact ⟨fun hnew => ⟨hnew.loaded, hnew.unshared, hnew.fits⟩,
      fun ⟨hloaded, hunshared, hfits⟩ => ⟨hloaded, hunshared, hfits⟩⟩

/-- **Names of attributes inside code** are kept when the operands of the code can be read, and else
rewritten like any text that is not used otherwise. -/
theorem rewriteClass_namesInCode {bs : Bytes} (h : parse bs = .ok c) (f : VisibilityFilter)
    (d : Dictionary) :
    ∃ r c', rewriteClass f d bs = .ok r ∧ parse r.bytes = .ok c' ∧
      RewritesNamesInCode f d c c' := by
  obtain ⟨r, p, hr, hparse, hpool⟩ := rewriteClass_of_parse h f d
  exact ⟨r, { c with pool := p }, hr, hparse, hpool.rewritesNamesInCode (parse_eq_ok_iff.1 h).1⟩

/-! ## A malformed attribute inside code -/

/-- A class whose only method loads the text of entry 6. Two attributes are inside its code: one
that has this text as its name, and a table of local variables that is cut short. -/
def garbled : ClassFile where
  minorVersion := 0
  majorVersion := 52
  pool := ⟨#[.utf8 (.encoded "Main"), .classRef 1, .utf8 (.encoded "run"), .utf8 (.encoded "()V"),
    .utf8 (.encoded "Code"), .utf8 (.encoded "Hello there"), .string 6, .string 3,
    .utf8 (.encoded "LocalVariableTable")]⟩
  flags := ⟨0x0021⟩
  thisClass := 2
  superClass := 0
  interfaces := []
  fields := []
  methods := [method]
  attributes := []
where
  code : Code := ⟨1, 1, [0x12, 0x07, 0xB1], [], [⟨6, []⟩, ⟨9, [0x00]⟩]⟩
  codeAttribute : Attribute := ⟨5, code.encode⟩
  method : Member :=
    ⟨⟨0x0001⟩, 3, 4, [codeAttribute], Member.encodeParts ⟨0x0001⟩ 3 4 [codeAttribute]⟩

/-- The class `garbled` after a rewrite. -/
def garbledAfter : ClassFile :=
  { garbled with pool := garbled.pool.setSlot 6 (.utf8 (.encoded "Bonjour à tous")) }

/-- The outcome of the rewrite. -/
def garbledRewritten : Rewritten where
  bytes := garbledAfter.toBytes
  report := { replacements := [⟨6, "Hello there", "Bonjour à tous"⟩] }
  warnings := [.unreadableOperands (some "Code") (.outOfBounds 0 2 1)]

/-- The names do not stay in general. -/
theorem not_forall_namesInCode_kept :
    ¬ ∀ (bs : Bytes) (c c' : ClassFile) (f : VisibilityFilter) (d : Dictionary) (r : Rewritten),
      parse bs = .ok c → rewriteClass f d bs = .ok r → parse r.bytes = .ok c' →
        ∀ m a code, c.HasCode m a code → ∀ n ∈ code.attributes,
          c'.pool.text? n.nameIndex = c.pool.text? n.nameIndex := by
  intro hkept
  have hcode : garbled.HasCode garbled.method garbled.codeAttribute garbled.code :=
    ⟨by decide +kernel, by decide +kernel, by decide +kernel, by decide +kernel⟩
  have hrewrite : rewriteClass ⟨2, VisibilityFilter.technicalPatterns⟩ french garbled.toBytes =
      .ok garbledRewritten := by decide +kernel
  have htext := hkept garbled.toBytes garbled garbledAfter _ _ _ (by decide +kernel) hrewrite
    (by decide +kernel) _ _ _ hcode ⟨6, []⟩ (by decide +kernel)
  exact absurd htext (by decide +kernel)

theorem rewriteClass_namesInCode_garbled :
    parse garbled.toBytes = .ok garbled ∧
      ∃ r c', rewriteClass ⟨2, VisibilityFilter.technicalPatterns⟩ french garbled.toBytes = .ok r ∧
        parse r.bytes = .ok c' ∧
        RewritesNamesInCode ⟨2, VisibilityFilter.technicalPatterns⟩ french garbled c' :=
  ⟨by decide +kernel, rewriteClass_namesInCode (by decide +kernel) _ french⟩

end ClassFile
end ClassLiterals
