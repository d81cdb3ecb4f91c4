import ClassLiterals.Proofs.Batch.Catalogue

/-!
# How a catalogue adds up

A finding is a candidate with the file that it was found in. The entry of a text adds up the
findings with that text: the loads are counted together, and every file is named once. In which
order the findings come makes a difference to the order of the files alone.

Main results: `Catalogue.get?_collect` and `CatalogueEntry.files_collect_perm`.
-/

namespace ClassLiterals

/-- A candidate with the file that it was found in. -/
abbrev Finding := String × Candidate

/-! ## Entries -/

namespace CatalogueEntry

/-- The entry after another finding of its text. -/
def addFinding (e : CatalogueEntry) (x : Finding) : CatalogueEntry := e.add x.1 x.2.occurrences

/-- The entry that the findings of a text add up to. -/
def collect (text : String) (xs : List Finding) : CatalogueEntry :=
  (xs.filter fun x => x.2.text = text).foldl addFinding (.new text)

theorem collect_concat (text : String) (xs : List Finding) (x : Finding) :
    collect text (xs ++ [x]) =
      if x.2.text = text then (collect text xs).addFinding x else collect text xs := by
  unfold collect
  rw [List.filter_append, List.foldl_append]
  by_cases h : x.2.text = text
  · simp [h]
  · simp [h]

theorem collect_of_forall_ne {text : String} {xs : List Finding}
    (h : ∀ x ∈ xs, x.2.text ≠ text) : collect text xs = .new text := by
  unfold collect
  have hnil : (xs.filter fun x => x.2.text = text) = [] := by
    rw [List.filter_eq_nil_iff]
    intro x hx
    simpa using h x hx
  rw [hnil]
  rfl

@[simp] theorem text_collect (text : String) (xs : List Finding) :
    (collect text xs).text = text := by
  induction xs using List.reverseRecOn with
  | nil => rfl
  | append_singleton xs x ih =>
    rw [collect_concat]
    split_ifs
    · exact ih
    · exact ih

@[simp] theorem kind_collect (text : String) (xs : List Finding) :
    (collect text xs).kind = .ofText text := by
  induction xs using List.reverseRecOn with
  | nil => rfl
  | append_singleton xs x ih =>
    rw [collect_concat]
    split_ifs
    · exact ih
    · exact ih

/-- The count of an entry is what a word keeps of the sum of the counts of the findings. -/
theorem occurrences_collect (text : String) (xs : List Finding) :
    (collect text xs).occurrences =
      .ofNat ((xs.filter fun x => x.2.text = text).map fun x => x.2.occurrences).sum := by
  induction xs using List.reverseRecOn with
  | nil => rfl
  | append_singleton xs x ih =>
    rw [collect_concat, List.filter_append, List.map_append, List.sum_append, UInt64.ofNat_add,
      ← ih]
    by_cases h : x.2.text = text
    · simp [h, addFinding, add]
    · simp [h]

/-- The files of an entry are those of the findings. -/
theorem mem_files_collect {text file : String} {xs : List Finding} :
    file ∈ (collect text xs).files ↔ ∃ x ∈ xs, x.2.text = text ∧ x.1 = file := by
  induction xs using List.reverseRecOn with
  | nil => simp [collect, new]
  | append_singleton xs x ih =>
    have hlast : (∃ y ∈ xs ++ [x], y.2.text = text ∧ y.1 = file) ↔
        (∃ y ∈ xs, y.2.text = text ∧ y.1 = file) ∨ (x.2.text = text ∧ x.1 = file) := by
      simp only [List.mem_append, List.mem_singleton, or_and_right, exists_or, exists_eq_left]
    rw [hlast, ← ih, collect_concat]
    by_cases h : x.2.text = text
    · rw [if_pos h, addFinding, add]
      by_cases hfile : (collect text xs).files.contains x.1 = true
      · simp only [hfile, if_true, h, true_and]
        rw [List.contains_iff_mem] at hfile
        constructor
        · exact .inl
        · rintro (hmem | rfl)
          · exact hmem
          · exact hfile
      · simp only [hfile, h, true_and]
        simp [eq_comm]
    · simp [h]

/-- Every file is named once. -/
theorem nodup_files_collect (text : String) (xs : List Finding) :
    (collect text xs).files.Nodup := by
  induction xs using List.reverseRecOn with
  | nil => exact List.nodup_nil
  | append_singleton xs x ih =>
    rw [collect_concat]
    split_ifs
    · rw [addFinding, add]
      by_cases hfile : (collect text xs).files.contains x.1 = true
      · simpa only [hfile, if_true] using ih
      · simp only [hfile]
        rw [List.contains_iff_mem] at hfile
        exact List.nodup_append.2 ⟨ih, List.nodup_singleton x.1, by
          intro a ha b hb hab
          rw [List.mem_singleton.1 hb] at hab
          exact hfile (hab ▸ ha)⟩
    · exact ih

section Perm

variable {xs ys : List Finding} (h : xs.Perm ys) (text : String)
include h

/-- The order of the findings makes no difference to the count. -/
theorem occurrences_collect_eq_of_perm :
    (collect text xs).occurrences = (collect text ys).occurrences := by
  rw [occurrences_collect, occurrences_collect, ((h.filter _).map _).sum_eq]

/-- The order of the findings makes a difference to the order of the files alone. -/
theorem files_collect_perm : (collect text xs).files.Perm (collect text ys).files := by
  rw [List.perm_ext_iff_of_nodup (nodup_files_collect text xs) (nodup_files_collect text ys)]
  intro file
  rw [mem_files_collect, mem_files_collect]
  simp only [h.mem_iff]

end Perm

end CatalogueEntry

/-! ## Catalogues -/

namespace Catalogue

/-- One more candidate changes the entry of its text. -/
theorem get?_addCandidate (file : String) (c : Catalogue) (x : Candidate) (text : String) :
    (addCandidate file c x).get? text =
      if x.text = text then
        some (((c.get? x.text).getD (.new x.text)).add file x.occurrences)
      else c.get? text := by
  rw [get?, addCandidate, Std.HashMap.getElem?_insert, Std.HashMap.getD_eq_getD_getElem?]
  simp only [beq_iff_eq]
  rfl

/-- The catalogue after findings, one after the other. -/
def collect (c : Catalogue) (xs : List Finding) : Catalogue :=
  xs.foldl (fun c x => addCandidate x.1 c x.2) c

theorem collect_append (c : Catalogue) (xs ys : List Finding) :
    c.collect (xs ++ ys) = (c.collect xs).collect ys :=
  List.foldl_append

theorem add_eq_collect (c : Catalogue) (file : String) (xs : List Candidate) :
    c.add file xs = c.collect (xs.map fun x => (file, x)) := by
  rw [add, collect, List.foldl_map]

/-- A catalogue has the entries that the findings of their texts add up to. -/
theorem get?_collect (xs : List Finding) (text : String) :
    (({} : Catalogue).collect xs).get? text =
      if ∃ x ∈ xs, x.2.text = text then some (.collect text xs) else none := by
  induction xs using List.reverseRecOn generalizing text with
  | nil =>
    rw [if_neg (by simp)]
    exact Std.HashMap.getElem?_empty
  | append_singleton xs x ih =>
    have hstep : ({} : Catalogue).collect (xs ++ [x]) =
        addCandidate x.1 (({} : Catalogue).collect xs) x.2 := collect_append _ xs [x]
    rw [hstep, get?_addCandidate, CatalogueEntry.collect_concat]
    by_cases h : x.2.text = text
    · have hmem : ∃ y ∈ xs ++ [x], y.2.text = text := ⟨x, by simp, h⟩
      rw [if_pos h, if_pos hmem, if_pos h, ih, h]
      by_cases hbefore : ∃ y ∈ xs, y.2.text = text
      · rw [if_pos hbefore]
        rfl
      · have hne : ∀ y ∈ xs, y.2.text ≠ text := fun y hy heq => hbefore ⟨y, hy, heq⟩
        rw [if_neg hbefore, CatalogueEntry.collect_of_forall_ne hne]
        rfl
    · have hlast : (∃ y ∈ xs ++ [x], y.2.text = text) ↔ ∃ y ∈ xs, y.2.text = text := by
        simp [or_and_right, exists_or, h]
      rw [if_neg h, if_neg h, ih]
      simp only [hlast]

theorem keyed_collect (xs : List Finding) : (({} : Catalogue).collect xs).Keyed := by
  intro text e h
  rw [get?_collect] at h
  split_ifs at h
  cases h
  exact CatalogueEntry.text_collect text xs

end Catalogue
end ClassLiterals
