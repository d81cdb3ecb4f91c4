import ClassLiterals.Batch
import ClassLiterals.Proofs.Rewrite.Replacements

/-!
# What outcomes tell about bytes

The outcome of a class says whether anything was replaced in it, and whoever keeps the classes goes
by that: an outcome without replacements comes with the bytes of the class, and one with
replacements comes with other bytes. The second part is not plain from how a rewrite works, which
writes the whole class anew. But what was written is read as a class whose texts are the
replacements, and bytes that are read as two different classes are not the same bytes, in whatever
encoding the old texts were stored.

Main result: `rewriteClasses_tell_truth`.
-/

namespace ClassLiterals

/-! ## One class -/

namespace ClassFile

variable {f : VisibilityFilter} {d : Dictionary} {c : ClassFile} {bs : Bytes} {r : Rewritten}

/-- A pool in which something was rewritten is another one. -/
theorem RewrittenPool.ne_pool {p : Pool} (h : c.RewrittenPool f d p) {i : UInt16} {new : String}
    (hnew : c.Rewrites f d i new) : p ≠ c.pool := by
  intro heq
  have hne : p.text? i ≠ c.pool.text? i := h.text?_ne_iff.2 ⟨new, hnew⟩
  rw [heq] at hne
  exact hne rfl

/-- A rewrite that replaces nothing keeps the bytes. -/
theorem bytes_eq_of_not_isModified (h : rewriteClass f d bs = .ok r)
    (hmodified : r.report.isModified = false) : r.bytes = bs := by
  rw [rewriteClass] at h
  cases hparse : parse bs with
  | error e => simp [hparse] at h
  | ok c =>
    simp only [hparse] at h
    split at h
    · cases h
    · cases h
      simp only at hmodified ⊢
      rw [hmodified]
      rfl

/-- A replacement that a rewrite reports is one that it makes. -/
theorem exists_rewrites_of_isModified (hparse : parse bs = .ok c) (h : rewriteClass f d bs = .ok r)
    (hmodified : r.report.isModified = true) : ∃ i new, c.Rewrites f d i new := by
  obtain ⟨r', hr', hreport, -⟩ := exists_rewriteClass_eq hparse f d
  obtain rfl : r = r' := Except.ok.inj (h.symm.trans hr')
  have hne : r.report.replacements ≠ [] := by simpa [RewriteReport.isModified] using hmodified
  rw [hreport] at hne
  obtain ⟨s, hs⟩ := List.exists_mem_of_ne_nil _ hne
  exact ⟨s.textIndex, s.new, rewrites_iff.2 ⟨s, hs, rfl, rfl⟩⟩

/-- A rewrite that replaces something writes other bytes, since they are read as another class. -/
theorem bytes_ne_of_isModified (h : rewriteClass f d bs = .ok r)
    (hmodified : r.report.isModified = true) : r.bytes ≠ bs := by
  intro heq
  cases hparse : parse bs with
  | error e => simp [rewriteClass, hparse] at h
  | ok c =>
    obtain ⟨i, new, hnew⟩ := exists_rewrites_of_isModified hparse h hmodified
    obtain ⟨r', p, hr', hparse', hpool⟩ := rewriteClass_of_parse hparse f d
    obtain rfl : r = r' := Except.ok.inj (h.symm.trans hr')
    rw [heq, hparse] at hparse'
    have hsame : c = { c with pool := p } := Except.ok.inj hparse'
    exact hpool.ne_pool hnew (congrArg ClassFile.pool hsame).symm

theorem bytes_eq_iff (h : rewriteClass f d bs = .ok r) :
    r.bytes = bs ↔ r.report.isModified = false := by
  constructor
  · intro heq
    by_contra hmodified
    exact bytes_ne_of_isModified h (Bool.eq_true_of_not_eq_false hmodified) heq
  · exact bytes_eq_of_not_isModified h

end ClassFile

/-! ## Many classes -/

namespace ClassOutcome

/-- The outcome of a class tells whether its bytes were changed. -/
structure TellsTruth (e : ClassEntry) (o : ClassOutcome) : Prop where
  name_eq : o.name = e.name
  bytes_eq_iff : o.bytes = e.bytes ↔ o.isModified = false
  /-- Nothing was replaced in a class that failed, and in one with an empty list of replacements. -/
  isModified_iff : o.isModified = false ↔
    (∃ err, o.report = .error err) ∨ ∃ report, o.report = .ok report ∧ report.replacements = []

theorem isModified_eq_false_iff (o : ClassOutcome) : o.isModified = false ↔
    (∃ err, o.report = .error err) ∨
      ∃ report, o.report = .ok report ∧ report.replacements = [] := by
  rw [isModified]
  cases o.report with
  | error err => simp
  | ok report => simp [RewriteReport.isModified]

theorem tellsTruth_ofEntry (f : VisibilityFilter) (d : Dictionary) (e : ClassEntry) :
    TellsTruth e (ofEntry f d e) := by
  refine ⟨?_, ?_, isModified_eq_false_iff _⟩
  · rw [ofEntry]
    cases rewriteClass f d e.bytes <;> rfl
  · rw [ofEntry]
    cases h : rewriteClass f d e.bytes with
    | error err => exact iff_of_true rfl rfl
    | ok r => exact ClassFile.bytes_eq_iff h

end ClassOutcome

/-- **Outcomes tell the truth.**  The outcomes of a rewrite are those of the classes in their order,
and each of them comes with other bytes than its class exactly when something was replaced. -/
theorem rewriteClasses_tell_truth (f : VisibilityFilter) (d : Dictionary) (es : List ClassEntry) :
    List.Forall₂ ClassOutcome.TellsTruth es (rewriteClasses f d es) := by
  rw [rewriteClasses, List.forall₂_map_right_iff, List.forall₂_same]
  intro e _
  exact ClassOutcome.tellsTruth_ofEntry f d e

end ClassLiterals
