import Mathlib
import ClassLiterals.Proofs.Paths.Components

/-!
# The directory that a path lies in

The directory above a path is a beginning of its text: what stands before the last step, without the
slashes and the steps to the same directory between the two. So it has the steps of the path but the
last one. A path without steps and the root lie in no directory.

Main results: `parent?_eq_none_iff`, `components_of_parent?` and `parentComponents_eq`.
-/

namespace ClassLiterals
namespace Path

/-! ## Joined pieces -/

theorem joinPieces_cons {piece : List Char} {rest : List (List Char)} (h : rest ≠ []) :
    joinPieces (piece :: rest) = piece ++ '/' :: joinPieces rest := by
  cases rest with
  | nil => exact absurd rfl h
  | cons next rest => rfl

/-- Pieces without slashes are found again in the text that they are joined to. -/
theorem pieces_joinPieces {ps : List (List Char)} (hne : ps ≠ []) (h : ∀ piece ∈ ps, '/' ∉ piece) :
    pieces (joinPieces ps) = ps := by
  induction ps with
  | nil => exact absurd rfl hne
  | cons piece rest ih =>
    obtain ⟨hpiece, hrest⟩ := List.forall_mem_cons.1 h
    by_cases hnil : rest = []
    · rw [hnil]
      exact pieces_of_slashless hpiece
    · rw [joinPieces_cons hnil, pieces_append_slash, pieces_of_slashless hpiece, ih hnil hrest]
      rfl

/-! ## Pieces at the end -/

/-- The last piece is kept, with all before it, if it is a step. -/
theorem trimEnd_concat (ps : List (List Char)) (piece : List Char) :
    trimEnd (ps ++ [piece]) =
      if (componentOf? piece).isNone then trimEnd ps else ps ++ [piece] :=
  List.rdropWhile_concat (fun piece => (componentOf? piece).isNone) ps piece

theorem trimEnd_isPrefix (ps : List (List Char)) : trimEnd ps <+: ps :=
  List.rdropWhile_prefix (fun piece => (componentOf? piece).isNone) ps

/-- The pieces that are trimmed off are no steps. -/
theorem filterMap_trimEnd (ps : List (List Char)) :
    (trimEnd ps).filterMap componentOf? = ps.filterMap componentOf? := by
  induction ps using List.reverseRecOn with
  | nil => rfl
  | append_singleton ps piece ih =>
    rw [trimEnd_concat]
    split_ifs with h
    · rw [ih, List.filterMap_append]
      simp [Option.isNone_iff_eq_none.1 h]
    · rfl

/-- Nothing is left of the pieces, or the last one that is left is a step. -/
theorem trimEnd_cases (ps : List (List Char)) :
    trimEnd ps = [] ∨ ∃ before piece step, trimEnd ps = before ++ [piece] ∧
      componentOf? piece = some step := by
  induction ps using List.reverseRecOn with
  | nil => exact .inl rfl
  | append_singleton ps piece ih =>
    rw [trimEnd_concat]
    split_ifs with h
    · exact ih
    · cases hstep : componentOf? piece with
      | none => simp [hstep] at h
      | some step => exact .inr ⟨ps, piece, step, rfl, hstep⟩

/-! ## Steps -/

theorem ne_root_of_componentOf? {piece : List Char} {step : PathComponent}
    (h : componentOf? piece = some step) : step ≠ .root := by
  rintro rfl
  unfold componentOf? at h
  split_ifs at h
  · cases h
  · cases h

theorem firstComponentOf?_of_ne_nil {piece : List Char} (h : piece ≠ []) (followed : Bool) :
    firstComponentOf? piece followed = firstComponentOf? piece true := by
  simp only [firstComponentOf?, if_neg h]

/-- The steps of a path whose text is made of the first piece and others. -/
theorem components_ofList_joinPieces {first : List Char} {above : List (List Char)}
    (h : ∀ piece ∈ first :: above, '/' ∉ piece) :
    components (String.ofList (joinPieces (first :: above))) =
      (firstComponentOf? first !above.isEmpty).toList ++ above.filterMap componentOf? := by
  refine components_of_pieces ?_
  rw [String.toList_ofList, pieces_joinPieces (List.cons_ne_nil first above) h]

/-! ## The directory above -/

/-- The text of the directory above, when a piece after the first one is a step: the first piece
with those before the last step, or the root if both are empty. -/
theorem parent?_of_trimEnd {p : Path} {first : List Char} {rest before : List (List Char)}
    {piece : List Char} (hpieces : pieces p.toList = first :: rest)
    (htrim : trimEnd rest = before ++ [piece]) :
    p.parent? = some (String.ofList
      (if first.isEmpty && (trimEnd before).isEmpty then ['/']
        else joinPieces (first :: trimEnd before))) := by
  rw [parent?, hpieces]
  simp only [htrim]
  cases before with
  | nil => rfl
  | cons next before => simp [List.dropLast_cons_of_ne_nil]

/-- The root, or what is made of pieces that do not begin with two empty ones. -/
theorem components_ofList_above {first : List Char} {above : List (List Char)}
    (h : ∀ piece ∈ first :: above, '/' ∉ piece) :
    components (String.ofList
      (if first.isEmpty && above.isEmpty then ['/'] else joinPieces (first :: above))) =
      (firstComponentOf? first true).toList ++ above.filterMap componentOf? := by
  by_cases hfirst : first = []
  · subst hfirst
    cases above with
    | nil => decide
    | cons next above => exact components_ofList_joinPieces h
  · rw [if_neg (by simp [hfirst]), components_ofList_joinPieces h,
      firstComponentOf?_of_ne_nil hfirst]

/-- A path has no steps or is the root, and lies in no directory; or it lies in the directory that
all its steps but the last one lead to. -/
theorem parent?_cases (p : Path) :
    (p.parent? = none ∧ (p.components = [] ∨ p.components = [.root])) ∨
      ∃ above steps last, p.parent? = some above ∧ above.components = steps ∧
        p.components = steps ++ [last] ∧ last ≠ .root := by
  obtain ⟨first, rest, hpieces⟩ := List.exists_cons_of_ne_nil (pieces_ne_nil p.toList)
  have hslash : ∀ piece ∈ first :: rest, '/' ∉ piece := fun piece hpiece =>
    slashless_of_mem_pieces (hpieces ▸ hpiece)
  have hsteps := components_of_pieces hpieces
  rw [← filterMap_trimEnd] at hsteps
  rcases trimEnd_cases rest with hnil | ⟨before, piece, last, htrim, hlast⟩
  · -- there is no step after the first piece
    rw [parent?, hpieces]
    simp only [hnil]
    rw [hnil] at hsteps
    cases hfirst : firstComponentOf? first !rest.isEmpty with
    | none => exact .inl ⟨rfl, .inl (by simp [hsteps, hfirst])⟩
    | some step =>
      rw [hfirst] at hsteps
      cases step with
      | root => exact .inl ⟨rfl, .inr hsteps⟩
      | current => exact .inr ⟨"", [], .current, rfl, rfl, hsteps, by simp⟩
      | parent => exact .inr ⟨"", [], .parent, rfl, rfl, hsteps, by simp⟩
      | normal name => exact .inr ⟨"", [], .normal name, rfl, rfl, hsteps, by simp⟩
  · -- the last step is left out, with what is no step before it
    have hrest : before ++ [piece] <+: rest := htrim ▸ trimEnd_isPrefix rest
    have hfollowed : rest.isEmpty = false := by
      cases rest with
      | nil => simp at hrest
      | cons next rest => rfl
    have habove : trimEnd before <+: rest :=
      (trimEnd_isPrefix before).trans ((List.prefix_append before [piece]).trans hrest)
    have hslashAbove : ∀ piece ∈ first :: trimEnd before, '/' ∉ piece := by
      rw [List.forall_mem_cons] at hslash ⊢
      exact ⟨hslash.1, fun piece hpiece => hslash.2 piece (habove.subset hpiece)⟩
    refine .inr ⟨_, _, last, parent?_of_trimEnd hpieces htrim,
      components_ofList_above hslashAbove, ?_, ne_root_of_componentOf? hlast⟩
    rw [hsteps, htrim, hfollowed, List.filterMap_append, filterMap_trimEnd, List.append_assoc]
    simp [hlast]

/-- **A path lies in a directory unless it has no steps or is the root.** -/
theorem parent?_eq_none_iff {p : Path} :
    p.parent? = none ↔ p.components = [] ∨ p.components = [.root] := by
  rcases parent?_cases p with ⟨hnone, hsteps⟩ | ⟨above, steps, last, hsome, -, hsteps, hlast⟩
  · simp [hnone, hsteps]
  · rw [hsome, hsteps]
    simp only [reduceCtorEq, false_iff, not_or]
    refine ⟨by simp, fun hroot => hlast ?_⟩
    have hmem : last ∈ [PathComponent.root] := hroot ▸ List.mem_append_right steps (by simp)
    exact List.mem_singleton.1 hmem

/-- **The directory above a path has the steps of the path but the last one.** -/
theorem components_of_parent? {p above : Path} (h : p.parent? = some above) :
    above.components = p.components.dropLast := by
  rcases parent?_cases p with ⟨hnone, -⟩ | ⟨above', steps, last, hsome, habove, hsteps, -⟩
  · rw [hnone] at h
    cases h
  · rw [hsome] at h
    cases h
    rw [habove, hsteps, List.dropLast_concat]

/-- The steps of the directory above, where there is one. -/
theorem parentComponents_eq (p : Path) :
    p.parentComponents = (p.parent?.map components).getD [] := by
  unfold parentComponents
  rcases parent?_cases p with
    ⟨hnone, hnil | hroot⟩ | ⟨above, steps, last, hsome, habove, hsteps, hlast⟩
  · rw [hnone, hnil]
    rfl
  · rw [hnone, hroot]
    rfl
  · rw [hsome, hsteps, List.getLast?_concat, List.dropLast_concat]
    cases last with
    | root => exact absurd rfl hlast
    | current => simp [habove]
    | parent => simp [habove]
    | normal name => simp [habove]

theorem parentComponents_isPrefix (p : Path) : p.parentComponents <+: p.components := by
  unfold parentComponents
  split
  · exact List.nil_prefix
  · exact List.nil_prefix
  · exact List.dropLast_prefix _

end Path
end ClassLiterals
