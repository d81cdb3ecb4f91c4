import Mathlib
import ClassLiterals.Proofs.Command.Execution

/-!
# Plans

A plan is made in one pass over the outcomes, which remembers the output paths so far. What it does
with an outcome is told by the output paths of the outcomes before: the outcome is written unless
its path is the output directory or the path of an outcome before it. So no path is written twice,
and outcomes whose paths are all different, and different from the output directory, are all
written.

Main results: `plan_eq`, `nodup_writes_plan` and `plan_eq_map_write`.
-/

namespace ClassLiterals

/-! ## What comes before -/

section WithBefore

variable {α β : Type}

/-- The elements of a list, each with all elements before it, when `before` comes before the
list. -/
def withBefore (before : List α) : List α → List (List α × α)
  | [] => []
  | a :: as => (before, a) :: withBefore (before ++ [a]) as

theorem mem_withBefore {before as : List α} {x : List α × α} :
    x ∈ withBefore before as ↔ ∃ front back, as = front ++ x.2 :: back ∧ x.1 = before ++ front := by
  induction as generalizing before with
  | nil => simp [withBefore]
  | cons a as ih =>
    rw [withBefore, List.mem_cons, ih]
    constructor
    · rintro (rfl | ⟨front, back, rfl, hx⟩)
      · exact ⟨[], as, rfl, (List.append_nil before).symm⟩
      · exact ⟨a :: front, back, rfl, by rw [hx, List.append_assoc]; rfl⟩
    · rintro ⟨_ | ⟨b, front⟩, back, has, hx⟩
      · obtain ⟨rfl, -⟩ := List.cons.inj has
        exact .inl (Prod.ext (by simpa using hx) rfl)
      · obtain ⟨rfl, rfl⟩ := List.cons.inj has
        exact .inr ⟨front, back, rfl, by simpa using hx⟩

theorem map_snd_withBefore (before as : List α) : (withBefore before as).map Prod.snd = as := by
  induction as generalizing before with
  | nil => rfl
  | cons a as ih => rw [withBefore, List.map_cons, ih]

theorem length_withBefore (before as : List α) : (withBefore before as).length = as.length := by
  rw [← List.length_map Prod.snd, map_snd_withBefore]

theorem withBefore_map (f : α → β) (before as : List α) :
    withBefore (before.map f) (as.map f) =
      (withBefore before as).map fun x => (x.1.map f, f x.2) := by
  induction as generalizing before with
  | nil => rfl
  | cons a as ih =>
    have hbefore : before.map f ++ [f a] = (before ++ [a]).map f := by simp
    rw [List.map_cons, withBefore, withBefore, List.map_cons, hbefore, ih]

/-- Leaving out elements leaves them out among those before, too. -/
theorem withBefore_filterMap (f : α → Option β) (before as : List α) :
    withBefore (before.filterMap f) (as.filterMap f) =
      (withBefore before as).filterMap fun x => (f x.2).map fun b => (x.1.filterMap f, b) := by
  induction as generalizing before with
  | nil => rfl
  | cons a as ih =>
    specialize ih (before ++ [a])
    rw [List.filterMap_append] at ih
    cases h : f a with
    | none => simpa [withBefore, h] using ih
    | some b => simpa [withBefore, h] using ih

end WithBefore

namespace Command
namespace WriteStep

/-! ## One outcome -/

/-- The step for an outcome with its output path, when the other output paths come before it. -/
def stepAfter (outDir : Path) (before : List Path) (path : Path) (outcome : ClassOutcome) :
    WriteStep :=
  if path.components = outDir.components then .noName outcome
  else if ∃ q ∈ before, q.components = path.components then .taken path outcome
  else .write path outcome

/-! ## All outcomes -/

variable {outDir : Path} {written : List (List PathComponent)}
  {before pairs : List (Path × ClassOutcome)}

/-- The output paths that a plan remembers are those of the outcomes before, so far as they are not
the output directory. -/
theorem plan_eq (h : ∀ steps, steps ≠ outDir.components →
      (steps ∈ written ↔ ∃ q ∈ before.map Prod.fst, q.components = steps)) :
    plan outDir written pairs = (withBefore before pairs).map fun x =>
      stepAfter outDir (x.1.map Prod.fst) x.2.1 x.2.2 := by
  induction pairs generalizing written before with
  | nil => rfl
  | cons x rest ih =>
    obtain ⟨path, outcome⟩ := x
    have hlast : ∀ steps, (∃ q ∈ (before ++ [(path, outcome)]).map Prod.fst, q.components = steps) ↔
        (∃ q ∈ before.map Prod.fst, q.components = steps) ∨ path.components = steps := by
      intro steps
      rw [List.map_append, List.map_singleton]
      simp only [List.mem_append, List.mem_singleton, or_and_right, exists_or, exists_eq_left]
    rw [withBefore, List.map_cons, plan, stepAfter]
    by_cases hdir : path.components = outDir.components
    · rw [if_pos hdir, if_pos hdir, ih]
      intro steps hsteps
      rw [hlast, h steps hsteps]
      exact (or_iff_left fun heq => hsteps (heq.symm.trans hdir)).symm
    · rw [if_neg hdir, if_neg hdir]
      by_cases htaken : ∃ q ∈ before.map Prod.fst, q.components = path.components
      · have hmem := (h _ hdir).2 htaken
        rw [if_pos (List.contains_iff_mem.2 hmem), if_pos htaken, ih]
        intro steps hsteps
        rw [hlast, h steps hsteps]
        refine (or_iff_left_of_imp ?_).symm
        rintro rfl
        exact htaken
      · have hnot : ¬ written.contains path.components = true := fun hmem =>
          htaken ((h _ hdir).1 (List.contains_iff_mem.1 hmem))
        rw [if_neg hnot, if_neg htaken, ih]
        intro steps hsteps
        rw [hlast, List.mem_cons, h steps hsteps, or_comm, eq_comm]

/-- No path is written that was written before, or twice. -/
theorem nodup_writes_plan (outDir : Path) (written : List (List PathComponent))
    (pairs : List (Path × ClassOutcome)) :
    (((plan outDir written pairs).flatMap writes).map fun w => w.1.components).Nodup ∧
      ∀ w ∈ (plan outDir written pairs).flatMap writes, w.1.components ∉ written := by
  fun_induction plan outDir written pairs with
  | case1 written => simp
  | case2 written path outcome rest hdir ih => simpa [writes] using ih
  | case3 written path outcome rest hdir htaken ih => simpa [writes] using ih
  | case4 written path outcome rest hdir hfree ih =>
    obtain ⟨hnodup, hapart⟩ := ih
    have hfree' : path.components ∉ written := fun hmem => hfree (List.contains_iff_mem.2 hmem)
    rw [List.flatMap_cons, writes, List.singleton_append, List.map_cons, List.nodup_cons,
      List.forall_mem_cons]
    refine ⟨⟨?_, hnodup⟩, hfree', fun w hw hmem => ?_⟩
    · intro hmem
      obtain ⟨w, hw, heq⟩ := List.mem_map.1 hmem
      exact hapart w hw (heq ▸ List.mem_cons_self)
    · exact hapart w hw (List.mem_cons_of_mem _ hmem)

/-- Outcomes with different paths, none of them the output directory, are all written. -/
theorem plan_eq_map_write (hdir : ∀ x ∈ pairs, x.1.components ≠ outDir.components)
    (hnodup : (pairs.map fun x => x.1.components).Nodup)
    (hfree : ∀ x ∈ pairs, x.1.components ∉ written) :
    plan outDir written pairs = pairs.map fun x => .write x.1 x.2 := by
  induction pairs generalizing written with
  | nil => rfl
  | cons x rest ih =>
    rw [List.forall_mem_cons] at hdir hfree
    rw [List.map_cons, List.nodup_cons] at hnodup
    have hnot : ¬ written.contains x.1.components = true := fun hmem =>
      hfree.1 (List.contains_iff_mem.1 hmem)
    rw [plan, if_neg hdir.1, if_neg hnot, ih hdir.2 hnodup.2, List.map_cons]
    intro y hy hmem
    rcases List.mem_cons.1 hmem with heq | hmem
    · exact hnodup.1 (List.mem_map.2 ⟨y, hy, heq⟩)
    · exact hfree.2 y hy hmem

end WriteStep
end Command
end ClassLiterals
