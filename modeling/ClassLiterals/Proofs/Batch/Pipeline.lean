import ClassLiterals.Command.Run
import ClassLiterals.Proofs.Batch.Order
import ClassLiterals.Proofs.Batch.Translation

/-!
# Translating many classes

Translating classes by a glossary goes a long way round: the texts of all classes are collected,
sorted, sent in batches and put into a table, and then every class is rewritten by that table. In
the end no text is lost, added or mixed up: every class is rewritten as by the glossary itself,
without its entries for texts that are not translatable.

Main result: `translateClasses_eq_rewriteClasses`.
-/

namespace ClassLiterals

/-! ## Dictionaries that agree -/

section Agree

variable {f : VisibilityFilter} {d d' : Dictionary} {p : Pool} {xs : List Candidate}

/-- Dictionaries matter by the replacements of the candidates alone. -/
theorem Applied.ofCandidates_congr (h : ∀ x ∈ xs, x.replacement? d = x.replacement? d') :
    ofCandidates d p xs = ofCandidates d' p xs := by
  have hfates : fates d p xs = fates d' p xs := by
    refine List.map_congr_left fun x hx => ?_
    rw [Candidate.fate, Candidate.fate, h x hx]
  rw [ofCandidates, ofCandidates, hfates]

theorem rewriteClass_congr {bs : Bytes}
    (h : ∀ c, ClassFile.parse bs = .ok c →
      ∀ x ∈ c.candidates f, x.replacement? d = x.replacement? d') :
    rewriteClass f d bs = rewriteClass f d' bs := by
  rw [rewriteClass, rewriteClass]
  cases hparse : ClassFile.parse bs with
  | error e => rfl
  | ok c =>
    simp only
    rw [Applied.ofCandidates_congr (h c hparse)]

theorem ClassOutcome.ofEntry_congr {e : ClassEntry}
    (h : ∀ c, ClassFile.parse e.bytes = .ok c →
      ∀ x ∈ c.candidates f, x.replacement? d = x.replacement? d') :
    ofEntry f d e = ofEntry f d' e := by
  rw [ofEntry, ofEntry, rewriteClass_congr h]

end Agree

/-! ## The translations of a run -/

namespace Command

variable (f : VisibilityFilter) (glossary : Glossary) (batchSize : Nat) (entries : List ClassEntry)

/-- The table that the translatable texts of the classes are translated to. -/
def runTranslations : Glossary :=
  (TranslationRun.translateAll glossary.translator batchSize
    ((BatchScan.ofEntries f entries).catalogue.translatableTexts f)).translations

theorem translateClasses_eq :
    translateClasses f glossary batchSize entries =
      rewriteClasses f ((runTranslations f glossary batchSize entries)[·]?) entries :=
  rfl

variable {f entries}

/-- A candidate of one of the classes has the replacement that the glossary has for it, if its text
is translatable. Translating an unknown text to itself replaces nothing. -/
theorem replacement?_runTranslations {e : ClassEntry} (he : e ∈ entries) {c : ClassFile}
    (hc : ClassFile.parse e.bytes = .ok c) {x : Candidate} (hx : x ∈ c.candidates f) :
    x.replacement? ((runTranslations f glossary batchSize entries)[·]?) =
      x.replacement? ((glossary.filter fun text _ => f.isTranslatable text)[·]?) := by
  have hmem : x.text ∈ (BatchScan.ofEntries f entries).catalogue.translatableTexts f ↔
      f.isTranslatable x.text = true :=
    BatchScan.mem_translatableTexts_iff.trans (and_iff_left ⟨e, he, c, hc, x, hx, rfl⟩)
  rw [Candidate.replacement?, Candidate.replacement?, runTranslations,
    TranslationRun.getElem?_translateAll, Std.HashMap.getElem?_filter',
    Std.HashMap.getD_eq_getD_getElem?]
  by_cases htranslatable : f.isTranslatable x.text = true
  · rw [if_pos (hmem.2 htranslatable)]
    cases glossary[x.text]? with
    | none => simp
    | some new => simp [htranslatable]
  · rw [if_neg fun h => htranslatable (hmem.1 h)]
    cases glossary[x.text]? with
    | none => rfl
    | some new => simp [htranslatable]

/-- **Collecting, translating and rewriting classes is rewriting them by the glossary**, restricted
to its translatable texts: every class in its place gets the same name, bytes and report, whatever
the other classes and the size of the batches. -/
theorem translateClasses_eq_rewriteClasses (f : VisibilityFilter) (glossary : Glossary)
    (batchSize : Nat) (entries : List ClassEntry) :
    translateClasses f glossary batchSize entries =
      rewriteClasses f ((glossary.filter fun text _ => f.isTranslatable text)[·]?) entries := by
  rw [translateClasses_eq, rewriteClasses, rewriteClasses]
  refine List.map_congr_left fun e he => ClassOutcome.ofEntry_congr fun c hc x hx => ?_
  exact replacement?_runTranslations glossary batchSize he hc hx

end Command
end ClassLiterals
