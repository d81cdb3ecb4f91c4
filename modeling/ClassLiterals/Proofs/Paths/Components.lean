import Mathlib
import ClassLiterals.Paths.Basic

/-!
# Components of paths

What a path means is told by its components, so the operations that build paths are known by the
components of what they build: names with slashes between them have these names as components, and
taking a relative path from a directory appends its steps.

Main results: `components_ofNames` and `components_join_ofNames`.
-/

namespace ClassLiterals

@[simp] theorem PathComponent.name?_eq_some_iff {step : PathComponent} {name : String} :
    step.name? = some name ↔ step = .normal name := by
  cases step with
  | root => simp [name?]
  | current => simp [name?]
  | parent => simp [name?]
  | normal name' => simp [name?]

namespace Path

/-! ## Pieces -/

theorem pieces_cons (c : Char) (cs : List Char) : ∃ piece rest, pieces cs = piece :: rest ∧
    pieces (c :: cs) = if c = '/' then [] :: piece :: rest else (c :: piece) :: rest := by
  induction cs generalizing c with
  | nil => exact ⟨[], [], rfl, rfl⟩
  | cons d ds ih =>
    obtain ⟨piece, rest, -, hcons⟩ := ih d
    split_ifs at hcons with hd
    · exact ⟨_, _, hcons, by rw [pieces, hcons]⟩
    · exact ⟨_, _, hcons, by rw [pieces, hcons]⟩

theorem pieces_ne_nil (cs : List Char) : pieces cs ≠ [] := by
  obtain ⟨piece, rest, h, -⟩ := pieces_cons ' ' cs
  rw [h]
  exact List.cons_ne_nil piece rest

/-- A slash separates the pieces before it from those after it. -/
theorem pieces_append_slash (cs ds : List Char) :
    pieces (cs ++ '/' :: ds) = pieces cs ++ pieces ds := by
  induction cs with
  | nil => rfl
  | cons c cs ih =>
    obtain ⟨piece, rest, hcs, hcons⟩ := pieces_cons c cs
    obtain ⟨piece', rest', hlong, hlongCons⟩ := pieces_cons c (cs ++ '/' :: ds)
    rw [hlong, hcs, List.cons_append] at ih
    cases ih
    rw [List.cons_append, hlongCons, hcons]
    split_ifs with hc
    · rfl
    · rfl

theorem pieces_of_slashless {cs : List Char} (h : '/' ∉ cs) : pieces cs = [cs] := by
  induction cs with
  | nil => rfl
  | cons c cs ih =>
    rw [List.mem_cons, not_or] at h
    rw [pieces, if_neg (Ne.symm h.1), ih h.2]

theorem slashless_of_mem_pieces {cs piece : List Char} (h : piece ∈ pieces cs) : '/' ∉ piece := by
  induction cs generalizing piece with
  | nil => simp [List.mem_singleton.1 h]
  | cons c cs ih =>
    obtain ⟨first, rest, hcs, hcons⟩ := pieces_cons c cs
    have hfirst : '/' ∉ first := ih (by rw [hcs]; exact List.mem_cons_self)
    have hrest : ∀ piece ∈ rest, '/' ∉ piece := fun piece hpiece =>
      ih (by rw [hcs]; exact List.mem_cons_of_mem first hpiece)
    rw [hcons] at h
    split_ifs at h with hc
    · rw [List.mem_cons, List.mem_cons] at h
      rcases h with rfl | rfl | h
      · exact List.not_mem_nil
      · exact hfirst
      · exact hrest piece h
    · rcases List.mem_cons.1 h with rfl | h
      · rw [List.mem_cons, not_or]
        exact ⟨Ne.symm hc, hfirst⟩
      · exact hrest piece h

/-! ## Names -/

/-- The text can be the name of a step: there is one piece in it, which stands for a step into the
directory of this name. -/
structure IsName (name : String) : Prop where
  slashless : '/' ∉ name.toList
  component : componentOf? name.toList = some (.normal name)

theorem IsName.ne_nil {name : String} (h : IsName name) : name.toList ≠ [] := by
  intro hnil
  have hcomponent := h.component
  rw [hnil, componentOf?, if_pos (Or.inl rfl)] at hcomponent
  cases hcomponent

theorem IsName.firstComponent {name : String} (h : IsName name) (followed : Bool) :
    firstComponentOf? name.toList followed = some (.normal name) := by
  have hdot : name.toList ≠ ['.'] := by
    intro hdot
    have hcomponent := h.component
    rw [hdot, componentOf?, if_pos (Or.inr rfl)] at hcomponent
    cases hcomponent
  rw [firstComponentOf?, if_neg h.ne_nil, if_neg hdot, h.component]

theorem isName_of_componentOf? {piece : List Char} {name : String} (hslash : '/' ∉ piece)
    (h : componentOf? piece = some (.normal name)) : IsName name := by
  have hname : name = String.ofList piece := by
    rw [componentOf?] at h
    split_ifs at h with hnone hparent
    · cases h
    · exact (PathComponent.normal.inj (Option.some.inj h)).symm
  subst hname
  exact ⟨by rwa [String.toList_ofList], by rwa [String.toList_ofList]⟩

theorem components_of_pieces {p : Path} {first : List Char} {rest : List (List Char)}
    (h : pieces p.toList = first :: rest) :
    p.components =
      (firstComponentOf? first !rest.isEmpty).toList ++ rest.filterMap componentOf? := by
  rw [components, h]

/-- The steps into directories have names. -/
theorem isName_of_mem_components {p : Path} {name : String} (h : .normal name ∈ p.components) :
    IsName name := by
  obtain ⟨first, rest, hpieces⟩ := List.exists_cons_of_ne_nil (pieces_ne_nil p.toList)
  have hslash : ∀ piece ∈ first :: rest, '/' ∉ piece := fun piece hpiece =>
    slashless_of_mem_pieces (hpieces ▸ hpiece)
  rw [components_of_pieces hpieces, List.mem_append, List.mem_filterMap, Option.mem_toList] at h
  rcases h with hfirst | ⟨piece, hpiece, hcomponent⟩
  · rw [firstComponentOf?] at hfirst
    split_ifs at hfirst with hnil hfollowed hdot
    · cases hfirst
    · cases hfirst
    · exact isName_of_componentOf? (hslash first List.mem_cons_self) hfirst
  · exact isName_of_componentOf? (hslash piece (List.mem_cons_of_mem first hpiece)) hcomponent

theorem isName_of_mem_names {p : Path} {n : Nat} :
    ∀ name ∈ (p.components.drop n).filterMap PathComponent.name?, IsName name := by
  intro name hname
  obtain ⟨step, hstep, hsome⟩ := List.mem_filterMap.1 hname
  rw [PathComponent.name?_eq_some_iff] at hsome
  exact isName_of_mem_components (hsome ▸ List.mem_of_mem_drop hstep)

/-! ## Joining -/

/-- The steps that pieces after the first one stand for, if the pieces are names. -/
theorem filterMap_componentOf?_names {names : List String} (h : ∀ name ∈ names, IsName name) :
    (names.map String.toList).filterMap componentOf? = names.map .normal := by
  induction names with
  | nil => rfl
  | cons name names ih =>
    rw [List.map_cons, List.filterMap_cons_some (h name List.mem_cons_self).component,
      List.map_cons, ih fun name' hname' => h name' (List.mem_cons_of_mem name hname')]

theorem toList_ofNames_cons (name : String) (names : List String) :
    (ofNames (name :: names)).toList =
      if names = [] then name.toList else name.toList ++ '/' :: (ofNames names).toList := by
  cases names with
  | nil => simp [ofNames]
  | cons next names => simp [ofNames, String.toList_intercalate, List.intercalate]

theorem pieces_ofNames {name : String} {names : List String}
    (h : ∀ name' ∈ name :: names, IsName name') :
    pieces (ofNames (name :: names)).toList = (name :: names).map String.toList := by
  induction names generalizing name with
  | nil =>
    rw [toList_ofNames_cons, if_pos rfl, pieces_of_slashless (h name List.mem_cons_self).slashless]
    rfl
  | cons next names ih =>
    rw [toList_ofNames_cons, if_neg (List.cons_ne_nil next names), pieces_append_slash,
      pieces_of_slashless (h name List.mem_cons_self).slashless,
      ih fun name' hname' => h name' (List.mem_cons_of_mem name hname')]
    rfl

/-- **A path that is made of names has these names as its steps.** -/
theorem components_ofNames {names : List String} (h : ∀ name ∈ names, IsName name) :
    (ofNames names).components = names.map .normal := by
  cases names with
  | nil => rfl
  | cons name names =>
    have hpieces := pieces_ofNames h
    rw [List.map_cons] at hpieces
    rw [components_of_pieces hpieces, (h name List.mem_cons_self).firstComponent,
      filterMap_componentOf?_names fun name' hname' => h name' (List.mem_cons_of_mem name hname')]
    rfl

theorem isAbsolute_ofNames {names : List String} (h : ∀ name ∈ names, IsName name) :
    (ofNames names).isAbsolute = false := by
  cases names with
  | nil => rfl
  | cons name names =>
    have hname := h name List.mem_cons_self
    obtain ⟨c, cs, hcs⟩ := List.exists_cons_of_ne_nil hname.ne_nil
    have hc : c ≠ '/' := by
      rintro rfl
      exact hname.slashless (hcs ▸ List.mem_cons_self)
    rw [isAbsolute, toList_ofNames_cons, hcs]
    split_ifs
    · simp [hc]
    · simp [hc]

/-- What comes after a slash adds its steps to those before. -/
theorem components_append_slash {p q : Path} {cs ds : List Char} (hp : p.toList = cs ++ ['/'])
    (hq : q.toList = cs ++ '/' :: ds) :
    q.components = p.components ++ (pieces ds).filterMap componentOf? := by
  obtain ⟨first, rest, hcs⟩ := List.exists_cons_of_ne_nil (pieces_ne_nil cs)
  have hshort : pieces p.toList = first :: (rest ++ [[]]) := by
    rw [hp, pieces_append_slash, hcs]
    rfl
  have hlong : pieces q.toList = first :: (rest ++ pieces ds) := by
    rw [hq, pieces_append_slash, hcs]
    rfl
  have hfollowed : (rest ++ pieces ds).isEmpty = false :=
    List.isEmpty_eq_false_iff.2 (List.append_ne_nil_of_right_ne_nil rest (pieces_ne_nil ds))
  have hfollowed' : (rest ++ [[]]).isEmpty = false :=
    List.isEmpty_eq_false_iff.2 (List.append_ne_nil_of_right_ne_nil rest (List.cons_ne_nil [] []))
  rw [components_of_pieces hshort, components_of_pieces hlong, hfollowed, hfollowed',
    List.filterMap_append, List.filterMap_append]
  simp [componentOf?]

/-- A slash at the end is no step, unless there is nothing before it. -/
theorem components_concat_slash {p q : Path} (hp : p.toList ≠ [])
    (hq : q.toList = p.toList ++ ['/']) :
    q.components = p.components := by
  obtain ⟨first, rest, hpieces⟩ := List.exists_cons_of_ne_nil (pieces_ne_nil p.toList)
  have hlong : pieces q.toList = first :: (rest ++ [[]]) := by
    rw [hq, pieces_append_slash, hpieces]
    rfl
  rw [components_of_pieces hpieces, components_of_pieces hlong, List.filterMap_append]
  have hfirst : firstComponentOf? first (!rest.isEmpty) =
      firstComponentOf? first (!(rest ++ [[]]).isEmpty) := by
    cases rest with
    | cons next rest => rfl
    | nil =>
      have hne : first ≠ [] := by
        rintro rfl
        obtain ⟨c, cs, hcs⟩ := List.exists_cons_of_ne_nil hp
        obtain ⟨piece, rest, -, hcons⟩ := pieces_cons c cs
        rw [hcs, hcons] at hpieces
        split_ifs at hpieces with hc
        · cases hpieces
        · cases hpieces
      rw [firstComponentOf?, firstComponentOf?, if_neg hne, if_neg hne]
  rw [hfirst]
  simp [componentOf?]

/-- **Taking names from a directory appends them to its steps.** -/
theorem components_join_ofNames (p : Path) {names : List String} (h : ∀ name ∈ names, IsName name) :
    (p.join (ofNames names)).components = p.components ++ names.map .normal := by
  have hsteps : (pieces (ofNames names).toList).filterMap componentOf? = names.map .normal := by
    cases names with
    | nil => rfl
    | cons name names => rw [pieces_ofNames h, filterMap_componentOf?_names h]
  rw [join, isAbsolute_ofNames h, Bool.false_or]
  split_ifs with hempty hslash
  · rw [String.isEmpty_iff] at hempty
    rw [hempty, components_ofNames h]
    rfl
  · obtain ⟨cs, hcs⟩ := List.getLast?_eq_some_iff.1 hslash
    have hjoin : (p ++ ofNames names).toList = cs ++ '/' :: (ofNames names).toList := by
      rw [String.toList_append, hcs, List.append_assoc, List.singleton_append]
    rw [components_append_slash hcs hjoin, hsteps]
  · have hne : p.toList ≠ [] := fun hnil =>
      hempty (String.isEmpty_iff.2 (String.toList_eq_nil_iff.1 hnil))
    have hslashed : (p ++ "/").toList = p.toList ++ ['/'] := String.toList_append
    have hjoin :
        (p ++ "/" ++ ofNames names).toList = p.toList ++ '/' :: (ofNames names).toList := by
      rw [String.toList_append, hslashed, List.append_assoc, List.singleton_append]
    rw [components_append_slash hslashed hjoin, hsteps, components_concat_slash hne hslashed]

end Path
end ClassLiterals
