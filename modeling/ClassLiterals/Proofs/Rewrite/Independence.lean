import ClassLiterals.Proofs.Rewrite.Resolution

/-!
# Rewriting by two dictionaries

Two dictionaries are independent when no text has a replacement in both, and no replacement of one
has a replacement in the other. A class whose attributes can all be read may then be rewritten by
one dictionary and afterwards by the other one, in either order, or by both at once: the outcome is
the same, byte for byte.

The reason is that the first rewrite takes nothing away from the second one. It leaves the texts
that the second dictionary knows, makes no others of them, and changes neither the loads nor the
structural uses.

Main results: `RewrittenPool.both` and `rewriteClass_independent`.
-/

namespace ClassLiterals

/-! ## Dictionaries -/

namespace Dictionary

variable {d e : Dictionary} {text new : String}

/-- Neither dictionary has a replacement for a text that the other one replaces, or for a
replacement of the other one. -/
structure Independent (d e : Dictionary) : Prop where
  disjoint : ∀ text, d text = none ∨ e text = none
  of_left : ∀ old new, d old = some new → e new = none
  of_right : ∀ old new, e old = some new → d new = none

/-- The replacements of both dictionaries. -/
def union (d e : Dictionary) : Dictionary := fun text => d text <|> e text

namespace Independent

theorem symm (h : d.Independent e) : e.Independent d where
  disjoint text := (h.disjoint text).symm
  of_left := h.of_right
  of_right := h.of_left

theorem union_eq_some_iff (h : d.Independent e) :
    d.union e text = some new ↔ d text = some new ∨ e text = some new := by
  rw [union]
  rcases h.disjoint text with hd | he
  · simp [hd]
  · simp [he]

theorem union_comm (h : d.Independent e) : d.union e = e.union d := by
  funext text
  rw [union, union]
  rcases h.disjoint text with hnone | hnone
  · simp [hnone]
  · simp [hnone]

end Independent
end Dictionary

namespace ClassFile

variable {f : VisibilityFilter} {d e : Dictionary} {c : ClassFile} {p q : Pool} {i : UInt16}
  {new : String}

/-! ## One rewrite after the other -/

/-- Both dictionaries rewrite what one of them rewrites. -/
theorem rewrites_union_iff (hde : d.Independent e) :
    c.Rewrites f (d.union e) i new ↔ c.Rewrites f d i new ∨ c.Rewrites f e i new := by
  constructor
  · rintro ⟨⟨l, hl, hindex, hvisible, hunion, hne⟩, hunshared, hfits⟩
    rcases hde.union_eq_some_iff.1 hunion with hd | he
    · exact .inl ⟨⟨l, hl, hindex, hvisible, hd, hne⟩, hunshared, hfits⟩
    · exact .inr ⟨⟨l, hl, hindex, hvisible, he, hne⟩, hunshared, hfits⟩
  · rintro (⟨⟨l, hl, hindex, hvisible, hd, hne⟩, hunshared, hfits⟩ |
      ⟨⟨l, hl, hindex, hvisible, he, hne⟩, hunshared, hfits⟩)
    · exact ⟨⟨l, hl, hindex, hvisible, hde.union_eq_some_iff.2 (.inl hd), hne⟩, hunshared, hfits⟩
    · exact ⟨⟨l, hl, hindex, hvisible, hde.union_eq_some_iff.2 (.inr he), hne⟩, hunshared, hfits⟩

/-- No entry is rewritten by both dictionaries. -/
theorem Rewrites.not_of_independent (h : c.Rewrites f d i new) (hde : d.Independent e)
    (other : String) : ¬ c.Rewrites f e i other := by
  rintro ⟨⟨k, hk, hkindex, -, he, -⟩, -, -⟩
  obtain ⟨l, hl, hlindex, -, hd, -⟩ := h.loaded
  have htext : k.text = l.text := text_eq_of_mem_loads hk hl (hkindex.trans hlindex.symm)
  rw [htext] at he
  rcases hde.disjoint l.text with hnone | hnone
  · rw [hnone] at hd
    cases hd
  · rw [hnone] at he
    cases he

namespace RewrittenPool

/-- After a rewrite by the first dictionary the second one rewrites what it would have rewritten
before. -/
theorem rewrites_iff_of_independent (h : c.RewrittenPool f d p) (hc : c.WellFormed)
    (hp : p.WellFormed) (hread : c.OperandsReadable) (hde : d.Independent e) :
    ({ c with pool := p } : ClassFile).Rewrites f e i new ↔ c.Rewrites f e i new := by
  constructor
  · rintro ⟨⟨k, hk, hindex, hvisible, he, hne⟩, hunshared, hfits⟩
    rw [h.loads_eq hc] at hk
    obtain ⟨l, hl, rfl⟩ := List.mem_map.1 hk
    simp only at hindex hvisible he hne
    have hsame : c.newText f d l = l.text := by
      rcases newText_cases f d c l with hsame | hreplaced
      · exact hsame
      · -- A replacement by the first dictionary is none of the texts of the second one.
        rw [hde.of_left _ _ hreplaced] at he
        cases he
    rw [hsame] at hvisible he hne
    rw [← h.mem_structuralIndices_iff hc hp hread] at hunshared
    exact ⟨⟨l, hl, hindex, hvisible, he, hne⟩, hunshared, hfits⟩
  · rintro ⟨⟨l, hl, hindex, hvisible, he, hne⟩, hunshared, hfits⟩
    have hnone : d l.text = none := by
      rcases hde.disjoint l.text with hnone | hnone
      · exact hnone
      · rw [hnone] at he
        cases he
    rw [h.mem_structuralIndices_iff hc hp hread] at hunshared
    refine ⟨⟨l, ?_, hindex, hvisible, he, hne⟩, hunshared, hfits⟩
    rw [h.loads_eq hc]
    refine List.mem_map.2 ⟨l, hl, ?_⟩
    rw [newText, hnone]

/-- A rewrite by the first dictionary and then by the second one is a rewrite by both. -/
theorem both (h : c.RewrittenPool f d p) (hc : c.WellFormed) (hp : p.WellFormed)
    (hread : c.OperandsReadable) (hde : d.Independent e)
    (hq : ({ c with pool := p } : ClassFile).RewrittenPool f e q) :
    c.RewrittenPool f (d.union e) q where
  changed {i new} hnew := by
    rcases (rewrites_union_iff hde).1 hnew with hd | he
    · have hkept : q.slot? i = p.slot? i := by
        refine hq.kept fun other hother => ?_
        rw [h.rewrites_iff_of_independent hc hp hread hde] at hother
        exact hd.not_of_independent hde other hother
      rw [Pool.get?_congr hkept]
      exact h.changed hd
    · exact hq.changed ((h.rewrites_iff_of_independent hc hp hread hde).2 he)
  kept {i} hi := by
    have hfirst : p.slot? i = c.pool.slot? i :=
      h.kept fun new hnew => hi new ((rewrites_union_iff hde).2 (.inl hnew))
    have hsecond : q.slot? i = p.slot? i := by
      refine hq.kept fun new hnew => ?_
      rw [h.rewrites_iff_of_independent hc hp hread hde] at hnew
      exact hi new ((rewrites_union_iff hde).2 (.inr hnew))
    exact hsecond.trans hfirst

/-- The pool after a rewrite is known. -/
theorem unique (hp : c.RewrittenPool f d p) (hq : c.RewrittenPool f d q) (hpwf : p.WellFormed)
    (hqwf : q.WellFormed) : p = q := by
  refine Pool.ext_slot? hpwf.size_le hqwf.size_le fun i => ?_
  by_cases hi : ∃ new, c.Rewrites f d i new
  · obtain ⟨new, hnew⟩ := hi
    rw [(Pool.get?_eq_some_iff.1 (hp.changed hnew)).1,
      (Pool.get?_eq_some_iff.1 (hq.changed hnew)).1]
  · rw [hp.kept (not_exists.1 hi), hq.kept (not_exists.1 hi)]

end RewrittenPool

/-! ## Classes -/

/-- Two rewrites by independent dictionaries give the bytes of one rewrite by both. -/
theorem rewriteClass_rewriteClass {bs : Bytes} (h : parse bs = .ok c) (hread : c.OperandsReadable)
    (f : VisibilityFilter) (hde : d.Independent e) :
    ∃ r r' s, rewriteClass f d bs = .ok r ∧ rewriteClass f e r.bytes = .ok r' ∧
      rewriteClass f (d.union e) bs = .ok s ∧ r'.bytes = s.bytes := by
  obtain ⟨r, p, hr, hparse, hp⟩ := rewriteClass_of_parse h f d
  obtain ⟨r', q, hr', hparse', hq⟩ := rewriteClass_of_parse hparse f e
  obtain ⟨s, p', hs, hparse'', hp'⟩ := rewriteClass_of_parse h f (d.union e)
  have hc : c.WellFormed := (parse_eq_ok_iff.1 h).1
  have hpwf : p.WellFormed := (parse_eq_ok_iff.1 hparse).1.pool
  have hqwf : q.WellFormed := (parse_eq_ok_iff.1 hparse').1.pool
  have hpwf' : p'.WellFormed := (parse_eq_ok_iff.1 hparse'').1.pool
  have hboth : c.RewrittenPool f (d.union e) q := hp.both hc hpwf hread hde hq
  have hpools : q = p' := hboth.unique hp' hqwf hpwf'
  refine ⟨r, r', s, hr, hr', hs, ?_⟩
  rw [← toBytes_of_parse hparse', ← toBytes_of_parse hparse'', hpools]

/-- **Independent replacements commute.**  A class whose attributes can all be read is rewritten to
the same bytes by one dictionary and then by another one that is independent of it, the other way
round, and by both at once. -/
theorem rewriteClass_independent {bs : Bytes} (h : parse bs = .ok c) (hread : c.OperandsReadable)
    (f : VisibilityFilter) (hde : d.Independent e) :
    ∃ r₁ r₁₂ r₂ r₂₁ r, rewriteClass f d bs = .ok r₁ ∧ rewriteClass f e r₁.bytes = .ok r₁₂ ∧
      rewriteClass f e bs = .ok r₂ ∧ rewriteClass f d r₂.bytes = .ok r₂₁ ∧
      rewriteClass f (d.union e) bs = .ok r ∧ r₁₂.bytes = r.bytes ∧ r₂₁.bytes = r.bytes := by
  obtain ⟨r₁, r₁₂, r, hr₁, hr₁₂, hr, hbytes⟩ := rewriteClass_rewriteClass h hread f hde
  obtain ⟨r₂, r₂₁, s, hr₂, hr₂₁, hs, hbytes'⟩ := rewriteClass_rewriteClass h hread f hde.symm
  have hsame : s = r := by
    rw [hde.symm.union_comm, hr] at hs
    exact (Except.ok.inj hs).symm
  rw [hsame] at hbytes'
  exact ⟨r₁, r₁₂, r₂, r₂₁, r, hr₁, hr₁₂, hr₂, hr₂₁, hr, hbytes, hbytes'⟩

/-- A dictionary for the goodbye of `exchange`, with the text that `french` has for the greeting. -/
def goodbyeOnly : Dictionary := fun text =>
  if text = "Goodbye now" then some "Bonjour à tous" else none

theorem independent_french_goodbyeOnly : french.Independent goodbyeOnly where
  disjoint text := by
    by_cases h : text = "Goodbye now"
    · exact .inl (by rw [h]; decide)
    · exact .inr (if_neg h)
  of_left old new h := by
    rw [french] at h
    split_ifs at h
    all_goals
      cases h
      decide
  of_right old new h := by
    rw [goodbyeOnly] at h
    split_ifs at h
    cases h
    decide

theorem rewriteClass_independent_exchange :
    parse exchange.toBytes = .ok exchange ∧ exchange.OperandsReadable ∧
      french.Independent goodbyeOnly ∧
      ∃ r₁ r₁₂ r₂ r₂₁ r, rewriteClass ⟨2, []⟩ french exchange.toBytes = .ok r₁ ∧
        rewriteClass ⟨2, []⟩ goodbyeOnly r₁.bytes = .ok r₁₂ ∧
        rewriteClass ⟨2, []⟩ goodbyeOnly exchange.toBytes = .ok r₂ ∧
        rewriteClass ⟨2, []⟩ french r₂.bytes = .ok r₂₁ ∧
        rewriteClass ⟨2, []⟩ (french.union goodbyeOnly) exchange.toBytes = .ok r ∧
        r₁₂.bytes = r.bytes ∧ r₂₁.bytes = r.bytes := by
  have hparse : parse exchange.toBytes = .ok exchange := by decide +kernel
  have hread : exchange.OperandsReadable := by decide +kernel
  exact ⟨hparse, hread, independent_french_goodbyeOnly,
    rewriteClass_independent hparse hread ⟨2, []⟩ independent_french_goodbyeOnly⟩

end ClassFile
end ClassLiterals
