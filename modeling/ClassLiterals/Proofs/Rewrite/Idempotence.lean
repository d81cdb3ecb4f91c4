import ClassLiterals.Proofs.Rewrite.Loads

/-!
# Rewriting twice

A second rewrite with the same filter and dictionary changes nothing, as long as no replacement has
another replacement. The class that it works on may use more entries structurally than the first
one did: giving an attribute inside malformed code another name can make the operands of the code
readable. But it uses no fewer, so an entry that was protected stays protected; its methods load at
the same places; and a text that the first rewrite left alone is left alone again for the same
reason.

Main results: `RewrittenPool.usesStructurally`, `RewrittenPool.loads_eq` and
`rewriteClass_idempotent`.
-/

namespace ClassLiterals

/-- No replacement has another replacement. -/
def Dictionary.Settled (d : Dictionary) : Prop :=
  ∀ old new, d old = some new → d new = none ∨ d new = some new

namespace ClassFile

variable {f : VisibilityFilter} {d : Dictionary} {c : ClassFile} {p : Pool} {i : UInt16}

/-! ## The class after a rewrite -/

theorem text?_eq_none_of_mem_references {j : UInt16} {k : Constant}
    (hk : c.pool.get? j = some k) (hi : i ∈ k.references) : c.pool.text? j = none := by
  cases k with
  | utf8 entry => exact absurd hi List.not_mem_nil
  | _ => rw [Pool.text?, hk]

namespace RewrittenPool

/-- What is used structurally is still used structurally after a rewrite. -/
theorem usesStructurally (h : c.RewrittenPool f d p) (hc : c.WellFormed)
    (hi : c.UsesStructurally i) : ({ c with pool := p } : ClassFile).UsesStructurally i := by
  cases hi with
  | constant hk hstring hi =>
    have htext := text?_eq_none_of_mem_references hk hi
    have hslot := Pool.get?_congr (h.slot?_of_text?_eq_none htext)
    exact .constant (hslot.trans hk) hstring hi
  | memberName hm => exact .memberName hm
  | memberDescriptor hm => exact .memberDescriptor hm
  | attributeName ha => exact .attributeName ha
  | @operand a is i ha his hi =>
    -- All operands of the attribute are kept, so they are read again.
    have hsame : ∀ j ∈ is, p.text? j = c.pool.text? j := by
      intro j hj
      exact Pool.text?_congr (h.slot?_of_uses hc (.operand ha his hj))
    exact .operand ha (Attribute.operands_congr his hsame) hi

theorem mem_structuralIndices (h : c.RewrittenPool f d p) (hc : c.WellFormed) (hp : p.WellFormed)
    (hi : i ∈ c.structuralIndices) :
    i ∈ ({ c with pool := p } : ClassFile).structuralIndices := by
  rw [mem_structuralIndices_iff (hc.withPool hp)]
  exact h.usesStructurally hc ((mem_structuralIndices_iff hc).1 hi)

/-- The methods load what they loaded before, in the same order and with the new texts. -/
theorem loads_eq (h : c.RewrittenPool f d p) (hc : c.WellFormed) :
    ({ c with pool := p } : ClassFile).loads =
      c.loads.map fun l => { l with text := c.newText f d l } := by
  have hmethod : ∀ m ∈ c.methods, methodLoads p m =
      (methodLoads c.pool m).map fun l => { l with text := c.newText f d l } := by
    intro m hm
    rw [methodLoads, methodLoads, h.methodLoadSites_eq hc hm]
    cases hsites : methodLoadSites c.pool m with
    | error e => rfl
    | ok sites =>
      simp only
      rw [List.map_filterMap]
      exact List.filterMap_congr fun site hsite => h.loadAt?_eq_map hc hm hsites hsite
  rw [loads, loads, List.map_flatMap]
  exact List.flatMap_congr hmethod

end RewrittenPool

/-! ## The second rewrite -/

/-- A text that a rewrite gives to a load is the text from before or its replacement. -/
theorem newText_cases (f : VisibilityFilter) (d : Dictionary) (c : ClassFile) (l : Load) :
    c.newText f d l = l.text ∨ d l.text = some (c.newText f d l) := by
  rw [newText]
  cases hd : d l.text with
  | none => exact .inl rfl
  | some new =>
    simp only
    split_ifs with hcond
    · exact .inr rfl
    · exact .inl rfl

/-- A load whose text is visible and has another one that fits has it after the rewrite, unless its
entry is used structurally. -/
theorem newText_of_rewrites {l : Load} {new : String} (hl : l.textIndex ∉ c.structuralIndices)
    (hvisible : f.isVisible l.text = true) (hd : d l.text = some new) (hne : new ≠ l.text)
    (hfits : Utf8.Fits new) : c.newText f d l = new := by
  rw [newText, hd]
  exact if_pos ⟨hvisible, hne, hl, hfits⟩

/-- After a rewrite with settled replacements there is nothing left to rewrite. -/
theorem RewrittenPool.not_rewrites (h : c.RewrittenPool f d p) (hc : c.WellFormed)
    (hp : p.WellFormed) (hd : d.Settled) (new : String) :
    ¬ ({ c with pool := p } : ClassFile).Rewrites f d i new := by
  rintro ⟨⟨k, hk, rfl, hvisible, hnew, hne⟩, hunshared, hfits⟩
  rw [h.loads_eq hc] at hk
  obtain ⟨l, hl, rfl⟩ := List.mem_map.1 hk
  simp only at hvisible hnew hne hunshared
  have hunshared' : l.textIndex ∉ c.structuralIndices :=
    fun hmem => hunshared (h.mem_structuralIndices hc hp hmem)
  rcases newText_cases f d c l with hsame | hreplaced
  · -- The text was left alone, although it could be replaced in the same way then.
    rw [hsame] at hvisible hnew hne
    have := newText_of_rewrites hunshared' hvisible hnew hne hfits
    rw [hsame] at this
    exact hne this.symm
  · rcases hd _ _ hreplaced with hnone | hself
    · rw [hnone] at hnew
      cases hnew
    · rw [hself] at hnew
      exact hne (Option.some.inj hnew).symm

/-- **Rewriting is idempotent.**  With settled replacements a second rewrite of a class that can be
read succeeds, reports no replacement and gives the bytes that it was given, however malformed the
attributes of the class are, and whichever replacements were skipped. -/
theorem rewriteClass_idempotent {bs : Bytes} (h : parse bs = .ok c) (f : VisibilityFilter)
    (hd : d.Settled) :
    ∃ r, rewriteClass f d bs = .ok r ∧
      ∃ r', rewriteClass f d r.bytes = .ok r' ∧ r'.report.replacements = [] ∧
        r'.bytes = r.bytes := by
  have hc : c.WellFormed := (parse_eq_ok_iff.1 h).1
  obtain ⟨hp, hpool⟩ := rewrittenPool_replacements (f := f) (d := d) hc
  obtain ⟨r, hr, -, hbytes⟩ := exists_rewriteClass_eq h f d
  have hparse := parse_toBytes (hc.withPool hp)
  rw [← hbytes] at hparse
  obtain ⟨r', hr', hreport, hbytes'⟩ := exists_rewriteClass_eq hparse f d
  have hnil : r'.report.replacements = [] := by
    rw [hreport, List.eq_nil_iff_forall_not_mem]
    intro s hs
    exact hpool.not_rewrites hc hp hd s.new (rewrites_iff.2 ⟨s, hs, rfl, rfl⟩)
  refine ⟨r, hr, r', hr', hnil, ?_⟩
  rw [hreport] at hnil
  rw [hbytes', hnil]
  exact toBytes_of_parse hparse

/-- The class `greeting` with a method that loads the name of an attribute inside its code. The name
promises a table of local variables, which the attribute does not hold. -/
def mislabelled : ClassFile :=
  { greeting with
    pool := ⟨greeting.pool.slots.push (.utf8 (.encoded "LocalVariableTable"))⟩
    methods := [⟨⟨0x0001⟩, 3, 4, [code], Member.encodeParts ⟨0x0001⟩ 3 4 [code]⟩] }
where
  code : Attribute := ⟨5, Code.encode ⟨1, 1, [0x12, 0x0F, 0xB1], [], [⟨15, [0x00]⟩]⟩⟩

/-- The class `mislabelled` with another name for the attribute. -/
def relabelled : ClassFile :=
  { mislabelled with pool := mislabelled.pool.setSlot 15 (.utf8 (.encoded "Les variables")) }

/-- The dictionary with that name. -/
def relabelling : Dictionary := fun text =>
  if text = "LocalVariableTable" then some "Les variables" else none

theorem settled_relabelling : relabelling.Settled := by
  intro old new h
  rw [relabelling] at h
  split_ifs at h
  cases h
  exact .inl rfl

/-- The first rewrite makes the operands of the code readable, so that the name is protected in the
second one. -/
theorem rewriteClass_idempotent_mislabelled :
    parse mislabelled.toBytes = .ok mislabelled ∧ relabelling.Settled ∧
      15 ∉ mislabelled.structuralIndices ∧ 15 ∈ relabelled.structuralIndices ∧
      ∃ r, rewriteClass ⟨2, []⟩ relabelling mislabelled.toBytes = .ok r ∧
        parse r.bytes = .ok relabelled ∧
        ∃ r', rewriteClass ⟨2, []⟩ relabelling r.bytes = .ok r' ∧ r'.report.replacements = [] ∧
          r'.bytes = r.bytes := by
  have hparse : parse mislabelled.toBytes = .ok mislabelled := by decide +kernel
  have hbytes : (rewriteClass ⟨2, []⟩ relabelling mislabelled.toBytes).toOption.map (·.bytes) =
      some relabelled.toBytes := by decide +kernel
  have hparse' : parse relabelled.toBytes = .ok relabelled := by decide +kernel
  obtain ⟨r, hr, hagain⟩ := rewriteClass_idempotent hparse ⟨2, []⟩ settled_relabelling
  rw [hr] at hbytes
  have hr' : r.bytes = relabelled.toBytes := Option.some.inj hbytes
  refine ⟨hparse, settled_relabelling, by decide +kernel, by decide +kernel, r, hr, ?_, hagain⟩
  rw [hr', hparse']

end ClassFile
end ClassLiterals
