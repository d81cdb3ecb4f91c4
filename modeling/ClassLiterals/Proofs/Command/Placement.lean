import Mathlib
import ClassLiterals.Proofs.Batch.Pipeline
import ClassLiterals.Proofs.Command.Execution
import ClassLiterals.Proofs.Paths.Outputs

/-!
# Where a rewrite writes

A rewrite looks for the shared directory among the inputs that it could read. So naming inputs that
cannot be read changes nothing of what it does to the files, and a class goes where the inputs that
can be read put it. All inputs together may share less; then they put the class into deeper
directories, unless the steps between the two shared directories hold no name.

Main result: `rewrite_placement`.
-/

namespace ClassLiterals.Command

/-! ## Steps and classes -/

/-- A step that writes is about one of the outcomes, with its output path. -/
theorem WriteStep.mem_of_mem_plan {outDir : Path} {written : List (List PathComponent)}
    {pairs : List (Path × ClassOutcome)} {path : Path} {outcome : ClassOutcome}
    (h : .write path outcome ∈ plan outDir written pairs) : (path, outcome) ∈ pairs := by
  fun_induction plan outDir written pairs with
  | case1 written => cases h
  | case2 written path' outcome' rest hdir ih =>
    rcases List.mem_cons.1 h with h | h
    · cases h
    · exact List.mem_cons_of_mem _ (ih h)
  | case3 written path' outcome' rest hdir htaken ih =>
    rcases List.mem_cons.1 h with h | h
    · cases h
    · exact List.mem_cons_of_mem _ (ih h)
  | case4 written path' outcome' rest hdir hfree ih =>
    rcases List.mem_cons.1 h with h | h
    · cases h
      exact List.mem_cons_self
    · exact List.mem_cons_of_mem _ (ih h)

/-- The outcomes of classes are written under the output paths of their names. -/
theorem WriteStep.outputOf_of_mem_ofOutcomes {outDir : Path} {f : VisibilityFilter} {d : Dictionary}
    {entries : List ClassEntry} {path : Path} {outcome : ClassOutcome}
    (h : .write path outcome ∈
      ofOutcomes outDir (entries.map (·.name)) (rewriteClasses f d entries)) :
    outcome ∈ rewriteClasses f d entries ∧ outcome.name ∈ entries.map (·.name) ∧
      path = Path.outputOf outDir (entries.map (·.name)) outcome.name := by
  have hpair := mem_of_mem_plan h
  rw [Path.outputs_eq_map, rewriteClasses, List.map_map, List.zip_map', List.mem_map] at hpair
  obtain ⟨e, he, hpair⟩ := hpair
  obtain ⟨rfl, rfl⟩ := Prod.mk.inj hpair
  have hname : (ClassOutcome.ofEntry f d e).name = e.name := by
    rw [ClassOutcome.ofEntry]
    cases rewriteClass f d e.bytes with
    | error err => rfl
    | ok r => rfl
  rw [hname]
  exact ⟨List.mem_map_of_mem he, List.mem_map_of_mem he, rfl⟩

/-! ## Rewrites -/

section Rewrite

variable {σ : Type} (fs : Store σ) (settings : Settings) (glossaryPath outDir : Path)
  (paths : List Path) (s : σ)

/-- Inputs that cannot be read do not count for the outcomes. -/
theorem outcomes_filter_readable :
    fs.outcomes s settings glossaryPath (paths.filter (fs.isReadable s)) =
      fs.outcomes s settings glossaryPath paths := by
  rw [Store.outcomes, Store.outcomes, fs.classes_filter_readable]

/-- Every class that can be read has its outcome, by one dictionary. -/
theorem eq_rewriteClasses_of_outcomes {fs : Store σ} {outcomes : List ClassOutcome}
    (h : fs.outcomes s settings glossaryPath paths = .ok outcomes) :
    ∃ f d, outcomes = rewriteClasses f d (fs.classes s paths) := by
  rw [Store.outcomes] at h
  cases hf : settings.filter with
  | error e => rw [hf] at h; cases h
  | ok f =>
    cases hg : fs.glossary s glossaryPath with
    | error e => rw [hf, hg] at h; cases h
    | ok glossary =>
      rw [hf, hg] at h
      cases h
      exact ⟨f, _, translateClasses_eq f glossary settings.batchSize (fs.classes s paths)⟩

/-- What a rewrite does to the files it does for the inputs that can be read. -/
theorem exec_rewrite_snd :
    (exec (rewrite fs.toFileSystem settings glossaryPath outDir paths) s).2 =
      match fs.outcomes s settings glossaryPath paths with
      | .error _ => s
      | .ok outcomes => (exec (writeOutcomes fs.toFileSystem outDir
          (paths.filter (fs.isReadable s)) outcomes) s).2 := by
  rw [exec_rewrite]
  cases fs.outcomes s settings glossaryPath paths with
  | error e => rfl
  | ok outcomes => exact exec_bind_reportFailed_snd _ _ _ s

theorem exec_rewrite_filter_readable :
    (exec (rewrite fs.toFileSystem settings glossaryPath outDir
      (paths.filter (fs.isReadable s))) s).2 =
      (exec (rewrite fs.toFileSystem settings glossaryPath outDir paths) s).2 := by
  rw [exec_rewrite_snd, exec_rewrite_snd, outcomes_filter_readable, List.filter_filter]
  simp only [Bool.and_self]

variable {fs settings glossaryPath outDir paths s}

/-- Whatever is written is the outcome of a class that could be read, under its output path among
these classes. -/
theorem outputOf_of_mem_written {path : Path} {bytes : Bytes}
    (h : (path, bytes) ∈ (exec (rewrite fs.recorded.toFileSystem settings glossaryPath outDir paths)
      (s, [])).2.2) :
    ∃ outcomes, fs.outcomes s settings glossaryPath paths = .ok outcomes ∧
      ∃ outcome ∈ outcomes, outcome.name ∈ paths.filter (fs.isReadable s) ∧
        bytes = outcome.bytes ∧
        path = Path.outputOf outDir (paths.filter (fs.isReadable s)) outcome.name := by
  have houtcomes : fs.recorded.outcomes (s, []) settings glossaryPath paths =
    fs.outcomes s settings glossaryPath paths := rfl
  rw [exec_rewrite_snd, houtcomes] at h
  cases hall : fs.outcomes s settings glossaryPath paths with
  | error e =>
    rw [hall] at h
    cases h
  | ok outcomes =>
    obtain ⟨f, d, rfl⟩ := eq_rewriteClasses_of_outcomes settings glossaryPath paths s hall
    obtain ⟨done, hdone, hwritten⟩ :=
      written_writeOutcomes fs outDir (paths.filter (fs.isReadable s))
      (rewriteClasses f d (fs.classes s paths)) s []
    rw [hall] at h
    simp only at h
    rw [show fs.recorded.isReadable (s, []) = fs.isReadable s from rfl, hwritten, List.nil_append,
      List.mem_flatMap] at h
    obtain ⟨step, hstep, hwrites⟩ := h
    cases step with
    | noName outcome => cases hwrites
    | taken path' outcome => cases hwrites
    | write path' outcome =>
      obtain ⟨rfl, rfl⟩ := Prod.mk.inj (List.mem_singleton.1 hwrites)
      have hmem := hdone.subset hstep
      rw [← fs.names_classes] at hmem ⊢
      obtain ⟨hout, hname, hpath⟩ := WriteStep.outputOf_of_mem_ofOutcomes hmem
      exact ⟨_, rfl, outcome, hout, hname, rfl, hpath⟩

end Rewrite

/-- **A rewrite places the classes that it can read as if no other inputs had been named.** All
inputs together give such a class the same place exactly if there is no name between the directory
that they share and the directory that the inputs that can be read share. -/
theorem rewrite_placement {σ : Type} (fs : Store σ) (settings : Settings)
    (glossaryPath outDir : Path) (paths : List Path) (s : σ) :
    let readable := paths.filter (fs.isReadable s)
    let run := fun inputs =>
      exec (rewrite fs.recorded.toFileSystem settings glossaryPath outDir inputs) (s, [])
    (run paths).2 = (run readable).2 ∧
      ∀ path bytes, (path, bytes) ∈ (run paths).2.2 →
        ∃ outcomes, fs.outcomes s settings glossaryPath paths = .ok outcomes ∧
          ∃ outcome ∈ outcomes, outcome.name ∈ readable ∧ bytes = outcome.bytes ∧
            path = Path.outputOf outDir readable outcome.name ∧
            (path.components = (Path.outputOf outDir paths outcome.name).components ↔
              Path.NoNameBetween outcome.name (Path.sharedDepth paths)
                (Path.sharedDepth readable)) := by
  intro readable run
  refine ⟨
    (exec_rewrite_filter_readable fs.recorded settings glossaryPath outDir paths (s, [])).symm,
    ?_⟩
  intro path bytes hwritten
  obtain ⟨outcomes, houtcomes, outcome, hmem, hname, hbytes, hpath⟩ :=
    outputOf_of_mem_written hwritten
  have hdepth : Path.sharedDepth paths ≤ Path.sharedDepth readable :=
    Path.sharedDepth_anti (List.ne_nil_of_mem hname) (List.filter_subset_self paths)
  refine ⟨outcomes, houtcomes, outcome, hmem, hname, hbytes, hpath, ?_⟩
  rw [hpath]
  exact Path.components_join_below_eq_iff outDir outcome.name hdepth

/-- A glossary without entries and one class without anything in it. -/
def loneClass : World :=
  World.ofFiles [("g.ron", "{}".toUTF8.toList),
    ("in/a/A.class", [0xCA, 0xFE, 0xBA, 0xBE, 0x00, 0x00, 0x00, 0x34, 0x00, 0x01, 0x00, 0x00,
      0x00, 0x00, 0x00, 0x00, 0x00, 0x00, 0x00, 0x00, 0x00, 0x00, 0x00, 0x00])]

/-- Not every class goes where all inputs put it: the class beside it is missing, so this one is
written without the name of the directory that it lies in. -/
theorem not_forall_placed_by_all_inputs : ¬ ∀ (w : World) (settings : Settings)
    (glossaryPath outDir : Path) (paths : List Path),
    ∀ written ∈ (exec (rewrite World.store.recorded.toFileSystem settings glossaryPath outDir paths)
      (w, [])).2.2,
      ∃ p ∈ paths, World.store.isReadable w p = true ∧
        written.1.components = (Path.outputOf outDir paths p).components := by
  intro h
  have hlone := h loneClass {} "g.ron" "out" ["in/a/A.class", "in/b/B.class"]
  revert hlone
  decide +kernel

end ClassLiterals.Command
