import Mathlib
import ClassLiterals.Proofs.Paths.Outputs
import ClassLiterals.Proofs.Paths.Parents

/-!
# The shared directory

Outputs are found by comparing the directory of the first input with the directories of the others,
one after the other. What is found does not depend on which input is the first: it is the length of
the longest list of steps that all directories begin with. So the output of an input has the steps
of the output directory and then the names of the input below the shared directory; steps to the
root and to directories above do not lead out of the output directory, wherever they stand in an
input.

Main result: `outputs_below_shared_directory`.
-/

namespace ClassLiterals

/-- Whether the step goes into a directory by its name. -/
def PathComponent.isNormal (step : PathComponent) : Bool := step.name?.isSome

namespace Path

/-! ## Common beginnings -/

/-- All lists begin with the list, and with no longer one. -/
structure IsLongestCommonPrefix {α : Type} (common : List α) (ls : List (List α)) : Prop where
  isPrefix : ∀ l ∈ ls, common <+: l
  longest : ∀ other, (∀ l ∈ ls, other <+: l) → other.length ≤ common.length

theorem exists_isLongestCommonPrefix {ls : List (List PathComponent)} (hne : ls ≠ []) :
    ∃ common, common.length = sharedLength ls ∧ IsLongestCommonPrefix common ls := by
  obtain ⟨common, hlength, hcommon⟩ := (le_sharedLength_iff hne).1 le_rfl
  refine ⟨common, hlength, hcommon, fun other hother => ?_⟩
  rw [hlength]
  exact (le_sharedLength_iff hne).2 ⟨other, rfl, hother⟩

/-- The steps that the directories of all inputs begin with. -/
theorem exists_shared (inputs : List Path) :
    ∃ common : List PathComponent, common.length = sharedDepth inputs ∧
      (inputs ≠ [] → IsLongestCommonPrefix common (inputs.map parentComponents)) := by
  by_cases hne : inputs = []
  · subst hne
    exact ⟨[], rfl, fun h => absurd rfl h⟩
  · obtain ⟨common, hlength, hcommon⟩ :=
      exists_isLongestCommonPrefix (mt List.map_eq_nil_iff.1 hne)
    exact ⟨common, hlength, fun _ => hcommon⟩

/-- The order of the inputs makes no difference to the shared directory. -/
theorem sharedDepth_eq_of_perm {inputs inputs' : List Path} (h : inputs.Perm inputs') :
    sharedDepth inputs = sharedDepth inputs' := by
  by_cases hne : inputs = []
  · subst hne
    rw [List.nil_perm.1 h]
  · have hne' : inputs' ≠ [] := fun hnil => hne (List.perm_nil.1 (hnil ▸ h))
    exact le_antisymm (sharedDepth_anti hne' h.symm.subset) (sharedDepth_anti hne h.subset)

/-! ## Outputs -/

theorem map_normal_filterMap_name? (steps : List PathComponent) :
    (steps.filterMap PathComponent.name?).map .normal = steps.filter PathComponent.isNormal := by
  induction steps with
  | nil => rfl
  | cons step steps ih =>
    cases step with
    | root => exact ih
    | current => exact ih
    | parent => exact ih
    | normal name => exact congrArg (PathComponent.normal name :: ·) ih

theorem zip_outputs (outDir : Path) (inputs : List Path) :
    inputs.zip (outputs outDir inputs) = inputs.map fun p => (p, outputOf outDir inputs p) := by
  rw [outputs_eq_map, List.map_prod_left_eq_zip]

/-- **Outputs lie below the output directory as the inputs lie below the directory they share.** The
shared directory is the longest list of steps that the directories of all inputs begin with; an
output has the steps of the output directory and then the names among the other steps of its input.
So no output leaves the output directory, and inputs in another order have the same outputs, in
that order. -/
theorem outputs_below_shared_directory (outDir : Path) (inputs : List Path) :
    (∃ common : List PathComponent,
      (inputs ≠ [] → IsLongestCommonPrefix common
        (inputs.map fun p => (p.parent?.map components).getD [])) ∧
      (outputs outDir inputs).map components = inputs.map fun p =>
        outDir.components ++ (p.components.drop common.length).filter PathComponent.isNormal) ∧
      (∀ o ∈ outputs outDir inputs, ∃ names : List String,
        o.components = outDir.components ++ names.map .normal) ∧
      ∀ inputs', inputs.Perm inputs' →
        (inputs.zip (outputs outDir inputs)).Perm (inputs'.zip (outputs outDir inputs')) := by
  refine ⟨?_, ?_, ?_⟩
  · obtain ⟨common, hlength, hcommon⟩ := exists_shared inputs
    have hparents : parentComponents = fun p => (p.parent?.map components).getD [] :=
      funext parentComponents_eq
    refine ⟨common, ?_, ?_⟩
    · rw [← hparents]
      exact hcommon
    · rw [outputs_eq_map, List.map_map]
      refine List.map_congr_left fun p _ => ?_
      rw [Function.comp_apply, components_outputOf, map_normal_filterMap_name?, hlength]
  · intro o ho
    rw [outputs_eq_map, List.mem_map] at ho
    obtain ⟨p, -, rfl⟩ := ho
    exact ⟨_, components_outputOf outDir inputs p⟩
  · intro inputs' h
    have hsame : outputOf outDir inputs = outputOf outDir inputs' := by
      funext p
      unfold outputOf
      rw [sharedDepth_eq_of_perm h]
    rw [zip_outputs, zip_outputs, hsame]
    exact h.map _

example : outputs "out/" ["../lib/./A.class", "/B.class", "..//C.class/"] =
    ["out/lib/A.class", "out/B.class", "out/C.class"] := by
  decide +kernel

end Path
end ClassLiterals
