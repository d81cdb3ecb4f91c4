import Mathlib
import ClassLiterals.Paths.Output
import ClassLiterals.Proofs.Paths.Components

/-!
# Output paths

The shared directory is the longest common beginning of the directories of all inputs, so it can
only become deeper when inputs are left out. The output path of an input takes the names below the
shared directory from the output directory. With a deeper shared directory it is therefore the same
path exactly when the steps between the two shared directories hold no name.

Main results: `le_sharedLength_iff`, `components_outputOf` and `components_join_below_eq_iff`.
-/

namespace ClassLiterals
namespace Path

/-! ## Common beginnings -/

section Common

variable {α : Type} [DecidableEq α]

omit [DecidableEq α] in
/-- Lists whose first elements differ have the empty beginning in common only. -/
theorem le_zero_iff_of_no_common {n : Nat} {as bs : List α}
    (hnone : ∀ a common, a :: common <+: as → ¬ a :: common <+: bs) :
    n ≤ 0 ↔ ∃ common, common.length = n ∧ common <+: as ∧ common <+: bs := by
  constructor
  · intro hn
    exact ⟨[], (Nat.le_zero.1 hn).symm, List.nil_prefix, List.nil_prefix⟩
  · rintro ⟨_ | ⟨a, common⟩, hlength, has, hbs⟩
    · exact hlength.ge
    · exact absurd hbs (hnone a common has)

theorem le_commonLength_iff {n : Nat} {as bs : List α} :
    n ≤ commonLength as bs ↔ ∃ common, common.length = n ∧ common <+: as ∧ common <+: bs := by
  fun_induction commonLength as bs generalizing n with
  | case1 as b bs ih =>
    cases n with
    | zero => exact iff_of_true (Nat.zero_le _) ⟨[], rfl, List.nil_prefix, List.nil_prefix⟩
    | succ n =>
      rw [Nat.add_le_add_iff_right, ih]
      constructor
      · rintro ⟨common, hlength, has, hbs⟩
        exact ⟨b :: common, by rw [List.length_cons, hlength],
          List.cons_prefix_cons.2 ⟨rfl, has⟩, List.cons_prefix_cons.2 ⟨rfl, hbs⟩⟩
      · rintro ⟨_ | ⟨c, common⟩, hlength, has, hbs⟩
        · cases hlength
        · exact ⟨common, Nat.succ.inj hlength, (List.cons_prefix_cons.1 has).2,
            (List.cons_prefix_cons.1 hbs).2⟩
  | case2 a as b bs hne =>
    refine le_zero_iff_of_no_common fun c common has hbs => hne ?_
    rw [← (List.cons_prefix_cons.1 has).1, (List.cons_prefix_cons.1 hbs).1]
  | case3 as bs hcons =>
    refine le_zero_iff_of_no_common fun c common has hbs => ?_
    obtain ⟨as', rfl⟩ := has
    obtain ⟨bs', rfl⟩ := hbs
    exact hcons c (common ++ as') c (common ++ bs') rfl rfl

end Common

theorem le_foldl_min_iff {β : Type} {n start : Nat} {f : β → Nat} {bs : List β} :
    n ≤ bs.foldl (fun n b => min n (f b)) start ↔ n ≤ start ∧ ∀ b ∈ bs, n ≤ f b := by
  induction bs generalizing start with
  | nil => simp
  | cons b bs ih => rw [List.foldl_cons, ih, le_min_iff, List.forall_mem_cons, and_assoc]

/-- All lists have a common beginning of a length exactly if it does not exceed the shared
length. -/
theorem le_sharedLength_iff {n : Nat} {ls : List (List PathComponent)} (hne : ls ≠ []) :
    n ≤ sharedLength ls ↔ ∃ common, common.length = n ∧ ∀ l ∈ ls, common <+: l := by
  obtain ⟨first, rest, rfl⟩ := List.exists_cons_of_ne_nil hne
  rw [sharedLength, le_foldl_min_iff]
  constructor
  · rintro ⟨hfirst, hrest⟩
    refine ⟨first.take n, List.length_take_of_le hfirst, List.forall_mem_cons.2
      ⟨List.take_prefix n first, fun l hl => ?_⟩⟩
    obtain ⟨common, rfl, hcommon, hl⟩ := le_commonLength_iff.1 (hrest l hl)
    rwa [← List.prefix_iff_eq_take.1 hcommon]
  · rintro ⟨common, rfl, hcommon⟩
    obtain ⟨hfirst, hrest⟩ := List.forall_mem_cons.1 hcommon
    exact ⟨hfirst.length_le, fun l hl => le_commonLength_iff.2 ⟨common, rfl, hfirst, hrest l hl⟩⟩

/-- Lists that are left out can only make the common beginning longer. -/
theorem sharedLength_anti {ls ls' : List (List PathComponent)} (hne : ls ≠ []) (hsub : ls ⊆ ls') :
    sharedLength ls' ≤ sharedLength ls := by
  have hne' : ls' ≠ [] := fun hnil => hne (List.subset_nil.1 (hnil ▸ hsub))
  obtain ⟨common, hlength, hcommon⟩ := (le_sharedLength_iff hne').1 le_rfl
  exact (le_sharedLength_iff hne).2 ⟨common, hlength, fun l hl => hcommon l (hsub hl)⟩

/-! ## The output of an input -/

/-- The number of steps to the shared directory of inputs. -/
def sharedDepth (inputs : List Path) : Nat := sharedLength (inputs.map parentComponents)

/-- The output path that the inputs give to one of them. -/
def outputOf (outDir : Path) (inputs : List Path) (p : Path) : Path :=
  outDir.join (below (sharedDepth inputs) p)

theorem outputs_eq_map (outDir : Path) (inputs : List Path) :
    outputs outDir inputs = inputs.map (outputOf outDir inputs) :=
  rfl

theorem sharedDepth_anti {inputs inputs' : List Path} (hne : inputs ≠ [])
    (hsub : inputs ⊆ inputs') :
    sharedDepth inputs' ≤ sharedDepth inputs :=
  sharedLength_anti (mt List.map_eq_nil_iff.1 hne) (List.map_subset parentComponents hsub)

theorem components_join_below (outDir : Path) (n : Nat) (p : Path) :
    (outDir.join (below n p)).components =
      outDir.components ++ ((p.components.drop n).filterMap PathComponent.name?).map .normal :=
  components_join_ofNames outDir isName_of_mem_names

/-- **The output path of an input goes from the output directory along the names below the shared
directory.** -/
theorem components_outputOf (outDir : Path) (inputs : List Path) (p : Path) :
    (outputOf outDir inputs p).components = outDir.components ++
      ((p.components.drop (sharedDepth inputs)).filterMap PathComponent.name?).map .normal :=
  components_join_below outDir (sharedDepth inputs) p

example : outputs "out" ["in/a/A.class", "in/./b/../B.class"] =
    ["out/a/A.class", "out/b/B.class"] := by
  decide +kernel

/-! ## Shared directories of different depth -/

/-- The steps of a path from one depth to a greater one hold no name. -/
def NoNameBetween (p : Path) (k n : Nat) : Prop :=
  ∀ step ∈ (p.components.take n).drop k, step.name? = none

theorem names_drop_eq_append (p : Path) {k n : Nat} (h : k ≤ n) :
    (p.components.drop k).filterMap PathComponent.name? =
      ((p.components.take n).drop k).filterMap PathComponent.name? ++
        (p.components.drop n).filterMap PathComponent.name? := by
  have hsplit : p.components.drop k = (p.components.take n).drop k ++ p.components.drop n := by
    conv_lhs => rw [← List.take_append_drop (n - k) (p.components.drop k)]
    rw [List.drop_take, List.drop_drop, Nat.add_sub_cancel' h]
  rw [hsplit, List.filterMap_append]

/-- Below directories of different depth, the output paths are the same exactly if there is no name
between the directories. -/
theorem components_join_below_eq_iff (outDir : Path) (p : Path) {k n : Nat} (h : k ≤ n) :
    (outDir.join (below n p)).components = (outDir.join (below k p)).components ↔
      p.NoNameBetween k n := by
  rw [components_join_below, components_join_below, names_drop_eq_append p h, List.map_append,
    List.append_cancel_left_eq, List.self_eq_append_left, List.map_eq_nil_iff,
    List.filterMap_eq_nil_iff, NoNameBetween]

end Path
end ClassLiterals
