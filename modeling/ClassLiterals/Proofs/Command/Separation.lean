import Mathlib
import ClassLiterals.Proofs.Command.Plans
import ClassLiterals.Proofs.Paths.SharedDirectory

/-!
# Distinct files stay apart

An output keeps of its input only the names below the shared directory. That is enough to tell plain
inputs apart, which go by names from one place: their names begin with those of the shared
directory, all of them, so what is cut off is the same everywhere. Outputs are then related as their
inputs are, and distinct files have outputs that can all be written.

Main result: `outputs_apart`.
-/

namespace ClassLiterals
namespace Path

/-! ## The root -/

/-- An absolute path starts with the root, and there is no root elsewhere. -/
theorem isAbsolute_cases (p : Path) :
    (p.isAbsolute = true ∧ ∃ steps, p.components = .root :: steps ∧ .root ∉ steps) ∨
      (p.isAbsolute = false ∧ .root ∉ p.components) := by
  obtain ⟨first, rest, hpieces⟩ := List.exists_cons_of_ne_nil (pieces_ne_nil p.toList)
  have hsteps := components_of_pieces hpieces
  have hrest : .root ∉ rest.filterMap componentOf? := by
    intro hroot
    obtain ⟨piece, -, hpiece⟩ := List.mem_filterMap.1 hroot
    exact ne_root_of_componentOf? hpiece rfl
  unfold isAbsolute
  cases htext : p.toList with
  | nil =>
    rw [htext] at hpieces
    obtain ⟨rfl, rfl⟩ := List.cons.inj hpieces
    exact .inr ⟨rfl, by simp [hsteps, firstComponentOf?]⟩
  | cons c cs =>
    obtain ⟨piece, rest', -, hcons⟩ := pieces_cons c cs
    rw [htext, hcons] at hpieces
    by_cases hc : c = '/'
    · rw [if_pos hc] at hpieces
      obtain ⟨rfl, rfl⟩ := List.cons.inj hpieces
      exact .inl ⟨by simp [hc], _, hsteps, hrest⟩
    · rw [if_neg hc] at hpieces
      obtain ⟨rfl, rfl⟩ := List.cons.inj hpieces
      refine .inr ⟨by simp [hc], ?_⟩
      rw [hsteps, List.mem_append, not_or]
      refine ⟨fun hroot => ?_, hrest⟩
      rw [Option.mem_toList, firstComponentOf?, if_neg (List.cons_ne_nil c piece)] at hroot
      split_ifs at hroot with hdot
      · cases hroot
      · exact ne_root_of_componentOf? hroot rfl

/-! ## Plain paths -/

/-- The names of the directories that a path goes into. -/
def names (p : Path) : List String := p.components.filterMap PathComponent.name?

/-- The path goes by names, from the root or from the working directory. -/
def IsPlain (p : Path) : Prop := ∀ step ∈ p.components, step = .root ∨ step.isNormal = true

/-- The place that a path starts at, as a list of steps. -/
def start (p : Path) : List PathComponent := if p.isAbsolute then [.root] else []

/-- The path is a directory that the other path goes through. -/
def IsAbove (p q : Path) : Prop := p.components <+: q.components ∧ p.components ≠ q.components

variable {p q : Path}

/-- A plain path is known by its names, if it is known where it starts. -/
theorem IsPlain.components_eq (h : p.IsPlain) : p.components = p.start ++ p.names.map .normal := by
  unfold start names
  rcases isAbsolute_cases p with ⟨habsolute, steps, hsteps, hroot⟩ | ⟨hrelative, hroot⟩
  · have hnormal : steps.filter PathComponent.isNormal = steps := by
      refine List.filter_eq_self.2 fun step hstep => ?_
      refine (h step (hsteps ▸ List.mem_cons_of_mem _ hstep)).resolve_left ?_
      rintro rfl
      exact hroot hstep
    rw [habsolute, map_normal_filterMap_name?, hsteps]
    exact congrArg _ hnormal.symm
  · have hnormal : p.components.filter PathComponent.isNormal = p.components := by
      refine List.filter_eq_self.2 fun step hstep => (h step hstep).resolve_left ?_
      rintro rfl
      exact hroot hstep
    rw [hrelative, map_normal_filterMap_name?, hnormal]
    rfl

theorem normal_injective : Function.Injective PathComponent.normal := fun _ _ h => by
  cases h
  rfl

theorem IsPlain.components_eq_iff (hp : p.IsPlain) (hq : q.IsPlain) (hstart : p.start = q.start) :
    p.components = q.components ↔ p.names = q.names := by
  rw [hp.components_eq, hq.components_eq, hstart, List.append_cancel_left_eq,
    List.map_inj_right fun _ _ => normal_injective.eq_iff.1]

theorem IsPlain.components_prefix_iff (hp : p.IsPlain) (hq : q.IsPlain)
    (hstart : p.start = q.start) : p.components <+: q.components ↔ p.names <+: q.names := by
  rw [hp.components_eq, hq.components_eq, hstart, List.prefix_append_right_inj,
    List.prefix_map_iff_of_injective normal_injective]

/-! ## Names below the shared directory -/

/-- The names of an input below the directory that all inputs share. -/
def namesBelow (inputs : List Path) (p : Path) : List String :=
  (p.components.drop (sharedDepth inputs)).filterMap PathComponent.name?

/-- What is cut off of the names is the same for all inputs. -/
theorem exists_names_eq (inputs : List Path) :
    ∃ shared : List String, ∀ p ∈ inputs, p.names = shared ++ namesBelow inputs p := by
  obtain ⟨common, hlength, hcommon⟩ := exists_shared inputs
  refine ⟨common.filterMap PathComponent.name?, fun p hp => ?_⟩
  have hprefix : common <+: p.components :=
    ((hcommon (List.ne_nil_of_mem hp)).isPrefix _ (List.mem_map_of_mem hp)).trans
      (parentComponents_isPrefix p)
  obtain ⟨steps, hsteps⟩ := hprefix
  rw [names, namesBelow, ← hsteps, ← hlength, List.drop_left, List.filterMap_append]

/-- An input with a name at its end keeps this name. -/
theorem namesBelow_ne_nil {inputs : List Path} (hp : p ∈ inputs) {name : String}
    (hname : p.components.getLast? = some (.normal name)) : namesBelow inputs p ≠ [] := by
  obtain ⟨common, hlength, hcommon⟩ := exists_shared inputs
  have hprefix := (hcommon (List.ne_nil_of_mem hp)).isPrefix _ (List.mem_map_of_mem hp)
  have hparent : p.parentComponents = p.components.dropLast := by
    simp only [parentComponents, hname]
  have hle : sharedDepth inputs ≤ p.components.dropLast.length := by
    rw [← hlength, ← hparent]
    exact hprefix.length_le
  rw [namesBelow, ← List.dropLast_append_getLast? _ hname, List.drop_append_of_le_length hle]
  simp [PathComponent.name?]

theorem outputOf_components_eq_iff (outDir : Path) (inputs : List Path) (p q : Path) :
    (outputOf outDir inputs p).components = (outputOf outDir inputs q).components ↔
      namesBelow inputs p = namesBelow inputs q := by
  rw [components_outputOf, components_outputOf, List.append_cancel_left_eq,
    List.map_inj_right fun _ _ => normal_injective.eq_iff.1]
  rfl

theorem outputOf_components_prefix_iff (outDir : Path) (inputs : List Path) (p q : Path) :
    (outputOf outDir inputs p).components <+: (outputOf outDir inputs q).components ↔
      namesBelow inputs p <+: namesBelow inputs q := by
  rw [components_outputOf, components_outputOf, List.prefix_append_right_inj,
    List.prefix_map_iff_of_injective normal_injective]
  rfl

/-! ## Plain inputs -/

/-- The inputs go by names, all from the root or all from the working directory. -/
structure ArePlain (inputs : List Path) : Prop where
  root : (∀ p ∈ inputs, p.isAbsolute = true) ∨ ∀ p ∈ inputs, p.isAbsolute = false
  plain : ∀ p ∈ inputs, p.IsPlain

variable {inputs : List Path} (outDir : Path)

theorem ArePlain.start_eq (h : ArePlain inputs) (hp : p ∈ inputs) (hq : q ∈ inputs) :
    p.start = q.start := by
  unfold start
  rcases h.root with habsolute | hrelative
  · rw [habsolute p hp, habsolute q hq]
  · rw [hrelative p hp, hrelative q hq]

theorem ArePlain.outputOf_eq_iff (h : ArePlain inputs) (hp : p ∈ inputs) (hq : q ∈ inputs) :
    (outputOf outDir inputs p).components = (outputOf outDir inputs q).components ↔
      p.components = q.components := by
  obtain ⟨shared, hshared⟩ := exists_names_eq inputs
  rw [outputOf_components_eq_iff,
    (h.plain p hp).components_eq_iff (h.plain q hq) (h.start_eq hp hq), hshared p hp,
    hshared q hq, List.append_cancel_left_eq]

theorem ArePlain.isAbove_outputOf_iff (h : ArePlain inputs) (hp : p ∈ inputs) (hq : q ∈ inputs) :
    (outputOf outDir inputs p).IsAbove (outputOf outDir inputs q) ↔ p.IsAbove q := by
  obtain ⟨shared, hshared⟩ := exists_names_eq inputs
  rw [IsAbove, IsAbove, Ne, Ne, h.outputOf_eq_iff outDir hp hq, outputOf_components_prefix_iff,
    (h.plain p hp).components_prefix_iff (h.plain q hq) (h.start_eq hp hq), hshared p hp,
    hshared q hq, List.prefix_append_right_inj]

/-! ## Distinct files -/

/-- The paths are those of different files: each has a name at its end, no two have the same steps,
and no file is a directory that another one lies in. -/
structure AreDistinctFiles (paths : List Path) : Prop where
  named : ∀ p ∈ paths, ∃ name, p.components.getLast? = some (.normal name)
  nodup : (paths.map components).Nodup
  apart : ∀ p ∈ paths, ∀ q ∈ paths, ¬ p.IsAbove q

/-- The output of an input with a name at its end has a name below the output directory. -/
theorem exists_components_outputOf (hp : p ∈ inputs) {name : String}
    (hname : p.components.getLast? = some (.normal name)) :
    ∃ (names : List String) (last : String), (outputOf outDir inputs p).components =
      outDir.components ++ names.map .normal ++ [.normal last] := by
  rcases List.eq_nil_or_concat (namesBelow inputs p) with hnil | ⟨names, last, hbelow⟩
  · exact absurd hnil (namesBelow_ne_nil hp hname)
  · refine ⟨names, last, ?_⟩
    rw [components_outputOf, ← namesBelow, hbelow]
    simp

theorem isAbove_outputOf (hp : p ∈ inputs) {name : String}
    (hname : p.components.getLast? = some (.normal name)) :
    outDir.IsAbove (outputOf outDir inputs p) := by
  obtain ⟨names, last, hsteps⟩ := exists_components_outputOf outDir hp hname
  rw [IsAbove, hsteps, List.append_assoc]
  refine ⟨List.prefix_append _ _, fun h => ?_⟩
  simp at h

/-- The outputs of distinct files are the paths of distinct files again. -/
theorem ArePlain.areDistinctFiles_outputs (h : ArePlain inputs) (hfiles : AreDistinctFiles inputs) :
    AreDistinctFiles (outputs outDir inputs) := by
  rw [outputs_eq_map]
  refine ⟨?_, ?_, ?_⟩
  · intro o ho
    obtain ⟨p, hp, rfl⟩ := List.mem_map.1 ho
    obtain ⟨name, hname⟩ := hfiles.named p hp
    obtain ⟨names, last, hsteps⟩ := exists_components_outputOf outDir hp hname
    exact ⟨last, by rw [hsteps, List.getLast?_concat]⟩
  · have hnodup := hfiles.nodup
    rw [List.Nodup, List.pairwise_map] at hnodup
    rw [List.map_map, List.Nodup, List.pairwise_map]
    refine hnodup.imp_of_mem fun hp hq hne heq => hne ?_
    exact (h.outputOf_eq_iff outDir hp hq).1 heq
  · intro o ho o' ho' habove
    obtain ⟨p, hp, rfl⟩ := List.mem_map.1 ho
    obtain ⟨q, hq, rfl⟩ := List.mem_map.1 ho'
    exact hfiles.apart p hp q hq ((h.isAbove_outputOf_iff outDir hp hq).1 habove)

end Path

/-! ## Writing distinct files -/

namespace Command

/-- Outcomes of distinct files are all written. -/
theorem ofOutcomes_eq_map_write {outDir : Path} {inputs : List Path} (h : Path.ArePlain inputs)
    (hfiles : Path.AreDistinctFiles inputs) {outcomes : List ClassOutcome}
    (hlength : outcomes.length = inputs.length) :
    WriteStep.ofOutcomes outDir inputs outcomes =
      ((Path.outputs outDir inputs).zip outcomes).map fun w => .write w.1 w.2 := by
  have hle : (Path.outputs outDir inputs).length ≤ outcomes.length := by
    rw [hlength, Path.outputs_eq_map, List.length_map]
  refine WriteStep.plan_eq_map_write ?_ ?_ (by simp)
  · intro w hw heq
    have hmem := (List.of_mem_zip hw).1
    rw [Path.outputs_eq_map, List.mem_map] at hmem
    obtain ⟨p, hp, hout⟩ := hmem
    obtain ⟨name, hname⟩ := hfiles.named p hp
    exact (Path.isAbove_outputOf outDir hp hname).2 (hout ▸ heq.symm)
  · have hpaths : ((Path.outputs outDir inputs).zip outcomes).map (fun w => w.1.components) =
        (Path.outputs outDir inputs).map Path.components := by
      conv_rhs => rw [← List.map_fst_zip hle]
      rw [List.map_map]
      rfl
    rw [hpaths]
    exact (h.areDistinctFiles_outputs outDir hfiles).nodup

/-- **Plain inputs stay apart.** If the inputs go by names, all from the root or all from the
working directory, then two outputs are the same exactly if the inputs are, and one is above another
exactly if the inputs are so. So outputs of distinct files are paths of distinct files below the
output directory, and whatever the outcomes are, all of them are written. -/
theorem outputs_apart (outDir : Path) (inputs : List Path) (h : Path.ArePlain inputs) :
    (∀ x ∈ inputs.zip (Path.outputs outDir inputs), ∀ y ∈ inputs.zip (Path.outputs outDir inputs),
      (x.2.components = y.2.components ↔ x.1.components = y.1.components) ∧
        (x.2.IsAbove y.2 ↔ x.1.IsAbove y.1)) ∧
      (Path.AreDistinctFiles inputs →
        Path.AreDistinctFiles (Path.outputs outDir inputs) ∧
          (∀ o ∈ Path.outputs outDir inputs, outDir.IsAbove o) ∧
          ∀ outcomes : List ClassOutcome, outcomes.length = inputs.length →
            WriteStep.ofOutcomes outDir inputs outcomes =
              ((Path.outputs outDir inputs).zip outcomes).map fun w => .write w.1 w.2) := by
  refine ⟨?_, fun hfiles => ⟨h.areDistinctFiles_outputs outDir hfiles, ?_, fun outcomes hlength =>
    ofOutcomes_eq_map_write h hfiles hlength⟩⟩
  · intro x hx y hy
    rw [Path.zip_outputs, List.mem_map] at hx hy
    obtain ⟨p, hp, rfl⟩ := hx
    obtain ⟨q, hq, rfl⟩ := hy
    exact ⟨h.outputOf_eq_iff outDir hp hq, h.isAbove_outputOf_iff outDir hp hq⟩
  · intro o ho
    rw [Path.outputs_eq_map, List.mem_map] at ho
    obtain ⟨p, hp, rfl⟩ := ho
    obtain ⟨name, hname⟩ := hfiles.named p hp
    exact Path.isAbove_outputOf outDir hp hname

/-- Classes of the same name at the shared directory and at different depths below it. -/
def classPaths : List Path := ["/in/A.class", "/in//a/A.class", "/in/a/b/A.class/"]

theorem outputs_apart_classPaths :
    Path.ArePlain classPaths ∧ Path.AreDistinctFiles classPaths ∧
      Path.outputs "out" classPaths = ["out/A.class", "out/a/A.class", "out/a/b/A.class"] ∧
      (∀ x ∈ classPaths.zip (Path.outputs "out" classPaths),
        ∀ y ∈ classPaths.zip (Path.outputs "out" classPaths),
          (x.2.components = y.2.components ↔ x.1.components = y.1.components) ∧
            (x.2.IsAbove y.2 ↔ x.1.IsAbove y.1)) ∧
      Path.AreDistinctFiles (Path.outputs "out" classPaths) := by
  have hplain : Path.ArePlain classPaths := by
    refine ⟨.inl (by decide +kernel), ?_⟩
    unfold Path.IsPlain
    decide +kernel
  have hfiles : Path.AreDistinctFiles classPaths := by
    refine ⟨fun p hp => ⟨"A.class", ?_⟩, by decide +kernel, ?_⟩
    · revert p
      decide +kernel
    · unfold Path.IsAbove
      decide +kernel
  obtain ⟨hsame, hwritten⟩ := outputs_apart "out" classPaths hplain
  exact ⟨hplain, hfiles, by decide +kernel, hsame, (hwritten hfiles).1⟩

end Command
end ClassLiterals
