import Mathlib
import ClassLiterals.Candidate

/-!
# What candidates stand for

The candidates of a class are the text entries of its visible loads, one candidate for each entry.
A candidate has the text of its entry, and is shared when the class uses the entry for something
else than a string constant.
-/

namespace ClassLiterals

open ClassFile

/-! ## Collecting loads -/

namespace Candidate

variable {structural : List UInt16} {done ls : List Load} {xs : List Candidate} {x : Candidate}
  {l : Load}

/-- The candidates are those of the loads: one for every entry that is loaded. -/
structure Summarises (structural : List UInt16) (ls : List Load) (xs : List Candidate) : Prop where
  nodup : (xs.map Candidate.textIndex).Nodup
  mem_iff : ∀ i, i ∈ xs.map Candidate.textIndex ↔ i ∈ ls.map Load.textIndex
  of_mem : ∀ x ∈ xs, ∃ l ∈ ls, x.textIndex = l.textIndex ∧ x.text = l.text ∧
    x.shared = structural.contains l.textIndex

/-- A load adds its entry at the end, unless it is there already. -/
theorem map_textIndex_record (structural : List UInt16) (xs : List Candidate) (l : Load) :
    (record structural xs l).map Candidate.textIndex =
      if l.textIndex ∈ xs.map Candidate.textIndex then xs.map Candidate.textIndex
      else xs.map Candidate.textIndex ++ [l.textIndex] := by
  induction xs with
  | nil => rfl
  | cons x xs ih =>
    rw [record]
    by_cases h : x.textIndex = l.textIndex
    · rw [if_pos h, if_pos (by simp [h])]
      rfl
    · rw [if_neg h, List.map_cons, ih]
      by_cases hmem : l.textIndex ∈ xs.map Candidate.textIndex
      · rw [if_pos hmem, if_pos (by simp [hmem]), List.map_cons]
      · rw [if_neg hmem, if_neg (by simp [hmem, Ne.symm h]), List.map_cons, List.cons_append]

/-- After a load, a candidate is of another entry and as it was, or the one of the entry with the
load, or new because the entry had none. -/
theorem cases_of_mem_record (hnodup : (xs.map textIndex).Nodup) (h : x ∈ record structural xs l) :
    (x ∈ xs ∧ l.textIndex ≠ x.textIndex) ∨
      (∃ y ∈ xs, y.textIndex = l.textIndex ∧ x = y.addLoad l) ∨
        (l.textIndex ∉ xs.map textIndex ∧ x = ofLoad structural l) := by
  induction xs with
  | nil => exact .inr (.inr ⟨List.not_mem_nil, List.mem_singleton.1 h⟩)
  | cons y ys ih =>
    obtain ⟨hfresh, hnodup⟩ := List.nodup_cons.1 hnodup
    rw [record] at h
    by_cases hy : y.textIndex = l.textIndex
    · rw [if_pos hy] at h
      rcases List.mem_cons.1 h with rfl | hx
      · exact .inr (.inl ⟨y, List.mem_cons_self, hy, rfl⟩)
      · refine .inl ⟨List.mem_cons_of_mem y hx, ?_⟩
        intro heq
        exact hfresh (List.mem_map.2 ⟨x, hx, heq.symm.trans hy.symm⟩)
    · rw [if_neg hy] at h
      rcases List.mem_cons.1 h with rfl | hx
      · exact .inl ⟨List.mem_cons_self, Ne.symm hy⟩
      · rcases ih hnodup hx with ⟨hx, hne⟩ | ⟨z, hz, hindex, rfl⟩ | ⟨hnew, rfl⟩
        · exact .inl ⟨List.mem_cons_of_mem y hx, hne⟩
        · exact .inr (.inl ⟨z, List.mem_cons_of_mem y hz, hindex, rfl⟩)
        · refine .inr (.inr ⟨?_, rfl⟩)
          rw [List.map_cons, List.mem_cons]
          rintro (heq | hmem)
          · exact hy heq.symm
          · exact hnew hmem

/-- One more load. -/
theorem Summarises.record (h : Summarises structural done xs) (l : Load) :
    Summarises structural (done ++ [l]) (record structural xs l) where
  nodup := by
    rw [map_textIndex_record]
    split_ifs with hl
    · exact h.nodup
    · rw [List.nodup_append_comm]
      exact List.nodup_cons.2 ⟨hl, h.nodup⟩
  mem_iff i := by
    rw [map_textIndex_record, List.map_append, List.mem_append, ← h.mem_iff]
    split_ifs with hl
    · constructor
      · exact .inl
      · rintro (hi | hi)
        · exact hi
        · rw [List.mem_singleton.1 hi]
          exact hl
    · rw [List.mem_append]
      rfl
  of_mem x hx := by
    have hdone : ∀ y ∈ xs, ∃ k ∈ done ++ [l], y.textIndex = k.textIndex ∧ y.text = k.text ∧
        y.shared = structural.contains k.textIndex := by
      intro y hy
      obtain ⟨k, hk, hkey⟩ := h.of_mem y hy
      exact ⟨k, List.mem_append_left _ hk, hkey⟩
    rcases cases_of_mem_record h.nodup hx with ⟨hx, -⟩ | ⟨y, hy, -, rfl⟩ | ⟨-, rfl⟩
    · exact hdone x hx
    · exact hdone y hy
    · exact ⟨l, by simp, rfl, rfl, rfl⟩

/-- Any number of loads. -/
theorem Summarises.foldl_record (h : Summarises structural done xs) (ls : List Load) :
    Summarises structural (done ++ ls) (ls.foldl (Candidate.record structural) xs) := by
  induction ls generalizing done xs with
  | nil =>
    rw [List.append_nil]
    exact h
  | cons l ls ih =>
    have hl := ih (h.record l)
    rwa [List.append_assoc] at hl

theorem summarises_foldl_record (structural : List UInt16) (ls : List Load) :
    Summarises structural ls (ls.foldl (Candidate.record structural) []) := by
  have hnil : Summarises structural [] [] :=
    ⟨List.nodup_nil, fun i => Iff.rfl, fun x hx => absurd hx List.not_mem_nil⟩
  exact hnil.foldl_record ls

/-! ### Fewer loads, other texts

Collecting goes by the entries of the loads. So it makes no difference whether some entries are left
out before collecting or afterwards, nor whether entries are given other texts before or afterwards.
-/

theorem filter_record (structural : List UInt16) (keep : UInt16 → Bool) (xs : List Candidate)
    (l : Load) :
    (record structural xs l).filter (fun x => keep x.textIndex) =
      if keep l.textIndex then record structural (xs.filter fun x => keep x.textIndex) l
      else xs.filter fun x => keep x.textIndex := by
  induction xs with
  | nil => cases hl : keep l.textIndex <;> simp [record, ofLoad, hl]
  | cons x xs ih =>
    rw [record]
    by_cases h : x.textIndex = l.textIndex
    · cases hl : keep l.textIndex <;> simp [record, addLoad, h, hl]
    · rw [if_neg h, List.filter_cons, ih, List.filter_cons]
      by_cases hx : keep x.textIndex = true
      · rw [if_pos hx, if_pos hx, record, if_neg h]
        split_ifs <;> rfl
      · rw [if_neg hx, if_neg hx]

theorem filter_foldl_record (structural : List UInt16) (keep : UInt16 → Bool) (ls : List Load)
    (xs : List Candidate) :
    (ls.foldl (record structural) xs).filter (fun x => keep x.textIndex) =
      (ls.filter fun l => keep l.textIndex).foldl (record structural)
        (xs.filter fun x => keep x.textIndex) := by
  induction ls generalizing xs with
  | nil => rfl
  | cons l ls ih =>
    rw [List.foldl_cons, ih, filter_record, List.filter_cons]
    split_ifs <;> rfl

/-- The candidate with the text that a table has for its entry. -/
def withTextOf (texts : UInt16 → String) (x : Candidate) : Candidate :=
  { x with text := texts x.textIndex }

/-- The load with the text that a table has for its entry. -/
def loadWithTextOf (texts : UInt16 → String) (l : Load) : Load :=
  { l with text := texts l.textIndex }

@[simp] theorem textIndex_withTextOf (texts : UInt16 → String) (x : Candidate) :
    (withTextOf texts x).textIndex = x.textIndex := rfl

@[simp] theorem textIndex_loadWithTextOf (texts : UInt16 → String) (l : Load) :
    (loadWithTextOf texts l).textIndex = l.textIndex := rfl

theorem map_record (structural : List UInt16) (texts : UInt16 → String) (xs : List Candidate)
    (l : Load) :
    (record structural xs l).map (withTextOf texts) =
      record structural (xs.map (withTextOf texts)) (loadWithTextOf texts l) := by
  induction xs with
  | nil => rfl
  | cons x xs ih =>
    rw [record, List.map_cons, record, textIndex_withTextOf, textIndex_loadWithTextOf]
    by_cases h : x.textIndex = l.textIndex
    · rw [if_pos h, if_pos h]
      rfl
    · rw [if_neg h, if_neg h, List.map_cons, ih]

theorem map_foldl_record (structural : List UInt16) (texts : UInt16 → String) (ls : List Load)
    (xs : List Candidate) :
    (ls.foldl (record structural) xs).map (withTextOf texts) =
      (ls.map (loadWithTextOf texts)).foldl (record structural) (xs.map (withTextOf texts)) := by
  induction ls generalizing xs with
  | nil => rfl
  | cons l ls ih => rw [List.foldl_cons, ih, map_record, List.map_cons, List.foldl_cons]

/-- Structural indices matter by the entries among them alone. -/
theorem record_congr {structural' : List UInt16} (h : ∀ i, i ∈ structural ↔ i ∈ structural') :
    record structural = record structural' := by
  funext xs l
  induction xs with
  | nil =>
    have hcontains : structural.contains l.textIndex = structural'.contains l.textIndex := by
      rw [Bool.eq_iff_iff, List.contains_iff_mem, List.contains_iff_mem, h]
    simp only [record, ofLoad, hcontains]
  | cons x xs ih => rw [record, record, ih]

end Candidate

/-! ## The candidates of a class -/

namespace ClassFile

variable {c : ClassFile} {f : VisibilityFilter}

/-- The loads of visible texts. -/
def visibleLoads (f : VisibilityFilter) (c : ClassFile) : List Load :=
  c.loads.filter fun l => f.isVisible l.text

theorem candidates_summarise (f : VisibilityFilter) (c : ClassFile) :
    Candidate.Summarises c.structuralIndices (c.visibleLoads f) (c.candidates f) :=
  Candidate.summarises_foldl_record c.structuralIndices (c.visibleLoads f)

theorem text?_of_loadAt? {pool : Pool} {method : String} {site : LoadSite} {l : Load}
    (h : loadAt? pool method site = some l) : pool.text? l.textIndex = some l.text := by
  rw [loadAt?] at h
  split_ifs at h
  obtain ⟨text, htext, rfl⟩ := Option.map_eq_some_iff.1 h
  exact htext

/-- The loads of a class are those at the load sites of its methods whose code can be scanned. -/
theorem mem_loads {l : Load} :
    l ∈ c.loads ↔ ∃ m ∈ c.methods, ∃ sites, methodLoadSites c.pool m = .ok sites ∧
      ∃ site ∈ sites, loadAt? c.pool (describeMethod c.pool m) site = some l := by
  rw [loads, List.mem_flatMap]
  refine exists_congr fun m => and_congr_right fun _ => ?_
  rw [methodLoads]
  cases methodLoadSites c.pool m with
  | error e => simp
  | ok sites => simp [List.mem_filterMap]

theorem text?_of_mem_loads {l : Load} (h : l ∈ c.loads) :
    c.pool.text? l.textIndex = some l.text := by
  obtain ⟨m, -, sites, -, site, -, hl⟩ := mem_loads.1 h
  exact text?_of_loadAt? hl

/-- The loads of an entry have the same text. -/
theorem text_eq_of_mem_loads {k l : Load} (hk : k ∈ c.loads) (hl : l ∈ c.loads)
    (hindex : k.textIndex = l.textIndex) : k.text = l.text := by
  have htext := text?_of_mem_loads hk
  rw [hindex, text?_of_mem_loads hl] at htext
  exact (Option.some.inj htext).symm

/-- A candidate stands for a load of a visible text. -/
theorem exists_load_of_mem_candidates {x : Candidate} (hx : x ∈ c.candidates f) :
    ∃ l ∈ c.loads, f.isVisible l.text = true ∧ l.textIndex = x.textIndex ∧ l.text = x.text ∧
      (x.shared = true ↔ l.textIndex ∈ c.structuralIndices) := by
  obtain ⟨l, hl, hindex, htext, hshared⟩ := (candidates_summarise f c).of_mem x hx
  obtain ⟨hl, hvisible⟩ := List.mem_filter.1 hl
  exact ⟨l, hl, hvisible, hindex.symm, htext.symm, by rw [hshared, List.contains_iff_mem]⟩

/-- A load of a visible text has a candidate. -/
theorem exists_mem_candidates {l : Load} (hl : l ∈ c.loads) (hvisible : f.isVisible l.text = true) :
    ∃ x ∈ c.candidates f, x.textIndex = l.textIndex := by
  have hmem : l.textIndex ∈ (c.visibleLoads f).map Load.textIndex :=
    List.mem_map_of_mem (List.mem_filter.2 ⟨hl, hvisible⟩)
  rw [← (candidates_summarise f c).mem_iff] at hmem
  exact List.mem_map.1 hmem

end ClassFile
end ClassLiterals
