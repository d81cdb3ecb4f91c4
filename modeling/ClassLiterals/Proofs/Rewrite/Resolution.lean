import ClassLiterals.Proofs.Rewrite.Idempotence

/-!
# Candidates after a rewrite

A class whose attributes can all be read uses after a rewrite exactly the entries structurally that
it used before. So the candidates of the rewritten class are those of the class, in the same order
and alike in everything but their texts: a replaced candidate has its replacement, and it is a
candidate still if the replacement is visible.

Main results: `RewrittenPool.mem_structuralIndices_iff` and `rewriteClass_candidates`.
-/

namespace ClassLiterals

/-- The text of an index, or the empty text where there is none. -/
def Pool.textOf (p : Pool) (i : UInt16) : String := (p.text? i).getD ""

namespace ClassFile

variable {f : VisibilityFilter} {d : Dictionary} {c : ClassFile} {p : Pool} {i : UInt16}

/-! ## Structural uses -/

/-- The operands of every attribute of the class, of its fields and of its methods can be read. -/
def OperandsReadable (c : ClassFile) : Prop :=
  ∀ a ∈ c.allAttributes, ∃ is, a.operands c.pool = .ok is

instance (c : ClassFile) : Decidable c.OperandsReadable :=
  decidable_of_iff (∀ a ∈ c.allAttributes, (a.operands c.pool).isOk = true) <| by
    refine forall₂_congr fun a _ => ?_
    cases a.operands c.pool <;> simp [Except.isOk, Except.toBool]

namespace RewrittenPool

/-- A slot that holds no text after a rewrite was not changed. -/
theorem slot?_of_text?_eq_none_after (h : c.RewrittenPool f d p) (hi : p.text? i = none) :
    p.slot? i = c.pool.slot? i := by
  refine h.kept fun new hnew => ?_
  rw [h.text?_of_rewrites hnew] at hi
  cases hi

/-- When all operands can be read, a rewrite adds no structural uses. -/
theorem usesStructurally_of_after (h : c.RewrittenPool f d p) (hc : c.WellFormed)
    (hread : c.OperandsReadable) (hi : ({ c with pool := p } : ClassFile).UsesStructurally i) :
    c.UsesStructurally i := by
  cases hi with
  | @constant j i k hk hstring hi =>
    have htext : p.text? j = none :=
      text?_eq_none_of_mem_references (c := { c with pool := p }) hk hi
    have hslot : p.get? j = c.pool.get? j :=
      Pool.get?_congr (h.slot?_of_text?_eq_none_after htext)
    exact .constant (hslot.symm.trans hk) hstring hi
  | memberName hm => exact .memberName (c := c) hm
  | memberDescriptor hm => exact .memberDescriptor (c := c) hm
  | attributeName ha => exact .attributeName (c := c) ha
  | @operand a is i ha his hi =>
    -- The operands that can be read before the rewrite are those that are read after it.
    obtain ⟨js, hjs⟩ := hread a ha
    have hsame : ∀ j ∈ js, p.text? j = c.pool.text? j := by
      intro j hj
      exact Pool.text?_congr (h.slot?_of_uses hc (.operand ha hjs hj))
    have hjs' : a.operands p = .ok js := Attribute.operands_congr hjs hsame
    have heq : js = is := Except.ok.inj (hjs'.symm.trans his)
    exact .operand ha hjs (heq ▸ hi)

theorem mem_structuralIndices_iff (h : c.RewrittenPool f d p) (hc : c.WellFormed)
    (hp : p.WellFormed) (hread : c.OperandsReadable) :
    i ∈ c.structuralIndices ↔ i ∈ ({ c with pool := p } : ClassFile).structuralIndices := by
  constructor
  · intro hi
    exact h.mem_structuralIndices hc hp hi
  · intro hi
    rw [ClassFile.mem_structuralIndices_iff (hc.withPool hp)] at hi
    rw [ClassFile.mem_structuralIndices_iff hc]
    exact h.usesStructurally_of_after hc hread hi

/-! ## Candidates -/

/-- The loads after a rewrite have the texts of the new pool. -/
theorem loads_eq_map_loadWithTextOf (h : c.RewrittenPool f d p) (hc : c.WellFormed) :
    ({ c with pool := p } : ClassFile).loads = c.loads.map (Candidate.loadWithTextOf p.textOf) := by
  rw [h.loads_eq hc]
  refine List.map_congr_left fun l hl => ?_
  rw [Candidate.loadWithTextOf, Pool.textOf, h.text?_eq_newText hl]
  rfl

/-- What is visible after a rewrite was visible before it. -/
theorem isVisible_of_after (h : c.RewrittenPool f d p) {l : Load} (hl : l ∈ c.loads)
    (hvisible : f.isVisible (p.textOf l.textIndex) = true) : f.isVisible l.text = true := by
  rw [Pool.textOf, h.text?_eq_newText hl, Option.getD_some, newText] at hvisible
  cases hd : d l.text with
  | none => simpa only [hd] using hvisible
  | some new =>
    simp only [hd] at hvisible
    split_ifs at hvisible with hcond
    · exact hcond.1
    · exact hvisible

/-- The visible loads after a rewrite are those visible loads from before whose new texts are
visible. -/
theorem visibleLoads_eq (h : c.RewrittenPool f d p) (hc : c.WellFormed) :
    ({ c with pool := p } : ClassFile).visibleLoads f =
      ((c.visibleLoads f).filter fun l => f.isVisible (p.textOf l.textIndex)).map
        (Candidate.loadWithTextOf p.textOf) := by
  rw [visibleLoads, visibleLoads, h.loads_eq_map_loadWithTextOf hc, List.filter_map,
    List.filter_filter]
  congr 1
  refine List.filter_congr fun l hl => ?_
  rw [Function.comp_apply, Candidate.loadWithTextOf, Bool.eq_iff_iff, Bool.and_eq_true]
  constructor
  · intro hvisible
    exact ⟨hvisible, h.isVisible_of_after hl hvisible⟩
  · rintro ⟨hvisible, -⟩
    exact hvisible

/-- The candidates after a rewrite are those from before with the texts of the new pool, as far as
these are visible. -/
theorem candidates_eq (h : c.RewrittenPool f d p) (hc : c.WellFormed) (hp : p.WellFormed)
    (hread : c.OperandsReadable) :
    ({ c with pool := p } : ClassFile).candidates f =
      ((c.candidates f).map (Candidate.withTextOf p.textOf)).filter
        fun x => f.isVisible x.text := by
  have hrecord := Candidate.record_congr fun i => h.mem_structuralIndices_iff (i := i) hc hp hread
  calc ({ c with pool := p } : ClassFile).candidates f
      = (({ c with pool := p } : ClassFile).visibleLoads f).foldl
          (Candidate.record c.structuralIndices) [] := by
        rw [hrecord]
        rfl
    _ = ((((c.visibleLoads f).filter fun l => f.isVisible (p.textOf l.textIndex)).foldl
          (Candidate.record c.structuralIndices) []).map (Candidate.withTextOf p.textOf)) := by
        rw [h.visibleLoads_eq hc]
        exact (Candidate.map_foldl_record _ _ _ []).symm
    _ = ((c.candidates f).filter fun x => f.isVisible (p.textOf x.textIndex)).map
          (Candidate.withTextOf p.textOf) := by
        congr 1
        exact (Candidate.filter_foldl_record _ (fun i => f.isVisible (p.textOf i)) _ []).symm
    _ = ((c.candidates f).map (Candidate.withTextOf p.textOf)).filter
          fun x => f.isVisible x.text := by
        rw [List.filter_map]
        rfl

end RewrittenPool

end ClassFile

/-! ## The replaced candidates -/

/-- The candidate with the replacement for its entry, if there is one among `rs`. -/
def Candidate.replaceText (rs : List Replacement) (x : Candidate) : Candidate :=
  match rs.find? fun r => r.textIndex = x.textIndex with
  | some r => { x with text := r.new }
  | none => x

namespace ClassFile

variable {f : VisibilityFilter} {d : Dictionary} {c : ClassFile}

/-- A candidate has its replacement in the pool that the replacements make. -/
theorem withTextOf_eq_replaceText {rs : List Replacement} (hc : c.WellFormed)
    (hrs : Applied.Admissible c.pool rs) {x : Candidate} (hx : x ∈ c.candidates f) :
    x.withTextOf (rs.foldl Applied.replaceIn c.pool).textOf = x.replaceText rs := by
  rw [Candidate.withTextOf, Candidate.replaceText, Pool.textOf]
  cases hfind : rs.find? fun r => r.textIndex = x.textIndex with
  | some r =>
    have hr : r ∈ rs := List.mem_of_find?_eq_some hfind
    have hindex : r.textIndex = x.textIndex := by simpa using List.find?_some hfind
    have hget := (Applied.foldl_replaceIn_spec hc.pool hrs).2 r hr
    rw [hindex] at hget
    simp only [Pool.text?, hget]
    rfl
  | none =>
    have hnot : x.textIndex ∉ rs.map Replacement.textIndex := by
      intro hmem
      obtain ⟨r, hr, hindex⟩ := List.mem_map.1 hmem
      have := List.find?_eq_none.1 hfind r hr
      simp [hindex] at this
    simp only [Pool.text?_congr (Applied.slot?_foldl_replaceIn_of_notMem hnot),
      text?_of_mem_candidates hx]
    rfl

/-- **The candidates of a rewritten class** are the candidates from before, in the same order, with
the replacements that the rewrite reports as their texts, as far as these are visible. -/
theorem rewriteClass_candidates {bs : Bytes} (h : parse bs = .ok c) (hread : c.OperandsReadable)
    (f : VisibilityFilter) (d : Dictionary) :
    ∃ r c', rewriteClass f d bs = .ok r ∧ parse r.bytes = .ok c' ∧
      c'.candidates f =
        ((c.candidates f).map (Candidate.replaceText r.report.replacements)).filter
          fun x => f.isVisible x.text := by
  have hc : c.WellFormed := (parse_eq_ok_iff.1 h).1
  obtain ⟨r, hr, hadmissible, hparse, hpool⟩ := parse_rewriteClass h f d
  have hp := (parse_eq_ok_iff.1 hparse).1.pool
  have htexts : ∀ x ∈ c.candidates f,
      x.withTextOf (r.report.replacements.foldl Applied.replaceIn c.pool).textOf =
        x.replaceText r.report.replacements :=
    fun x hx => withTextOf_eq_replaceText hc hadmissible hx
  refine ⟨r, _, hr, hparse, ?_⟩
  rw [hpool.candidates_eq hc hp hread, List.map_congr_left htexts]

/-- The class `greeting` with a method that says goodbye, too. -/
def exchange : ClassFile :=
  { greeting with
    pool := ⟨greeting.pool.slots.push (.utf8 (.encoded "Goodbye now"))⟩
    methods := [⟨⟨0x0001⟩, 3, 4, [code], Member.encodeParts ⟨0x0001⟩ 3 4 [code]⟩] }
where
  code : Attribute :=
    ⟨5, Code.encode
      ⟨1, 1, [0x12, 0x07, 0x12, 0x06, 0x12, 0x08, 0x12, 0x0F, 0xB1], [], []⟩⟩

/-- The dictionary `french` with a text for the goodbye that is too short to be visible. -/
def tersely : Dictionary := fun text =>
  if text = "Goodbye now" then some "!" else french text

/-- The greeting gets its replacement, the name of the method is shared and keeps its text, and the
goodbye is no candidate any more. -/
theorem rewriteClass_candidates_exchange :
    parse exchange.toBytes = .ok exchange ∧ exchange.OperandsReadable ∧
      (exchange.candidates ⟨2, []⟩).map (fun x => (x.text, x.occurrences, x.shared)) =
        [("Hello there", 2, false), ("run", 1, true), ("Goodbye now", 1, false)] ∧
      ∃ r c', rewriteClass ⟨2, []⟩ tersely exchange.toBytes = .ok r ∧ parse r.bytes = .ok c' ∧
        c'.candidates ⟨2, []⟩ =
          ((exchange.candidates ⟨2, []⟩).map
            (Candidate.replaceText r.report.replacements)).filter
              fun x => VisibilityFilter.isVisible ⟨2, []⟩ x.text := by
  have hparse : parse exchange.toBytes = .ok exchange := by decide +kernel
  have hread : exchange.OperandsReadable := by decide +kernel
  exact ⟨hparse, hread, by decide +kernel, rewriteClass_candidates hparse hread ⟨2, []⟩ tersely⟩

end ClassFile
end ClassLiterals
