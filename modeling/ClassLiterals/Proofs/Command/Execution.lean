import Mathlib
import ClassLiterals.Command.FileTree

/-!
# Runs of commands

A command that runs on a file system with a state ends in some way and leaves some state behind. If
reading does not change the state, then all that a rewrite does before its first write is a function
of the settings and of the contents of the files: it is known as `Store.outcomes`, and what remains
is to write these outcomes (`exec_rewrite`).

To speak of what a command writes, a file system is made to keep a record (`Store.recorded`). What
is recorded while steps are performed is what the steps say, up to the first one that fails
(`exec_performAll_cases`).
-/

namespace ClassLiterals.Command

/-! ## Steps of commands -/

section Exec

variable {σ α β : Type}

/-- How a step ends from a state, with the state after it. -/
def exec (x : Step (StateM σ) α) (s : σ) : Except CommandError α × σ := (x.run.run s).run

theorem exec_pure (a : α) (s : σ) : exec (pure a) s = (.ok a, s) := rfl

theorem exec_lift (x : StateM σ α) (s : σ) :
    exec (x : Step (StateM σ) α) s = (.ok (x.run s).run.1, (x.run s).run.2) :=
  rfl

/-- The first step that fails ends the run. -/
theorem exec_bind (x : Step (StateM σ) α) (f : α → Step (StateM σ) β) (s : σ) :
    exec (x >>= f) s =
      match exec x s with
      | (.ok a, s') => exec (f a) s'
      | (.error e, s') => (.error e, s') := by
  rw [exec, ExceptT.run_bind, StateT.run_bind, Id.run_bind, exec]
  cases (x.run.run s).run with
  | mk result s' =>
    cases result with
    | error e => rfl
    | ok a => rfl

theorem exec_bind_of_ok {x : Step (StateM σ) α} {s s' : σ} {a : α} (h : exec x s = (.ok a, s'))
    (f : α → Step (StateM σ) β) : exec (x >>= f) s = exec (f a) s' := by
  rw [exec_bind, h]

theorem exec_bind_of_error {x : Step (StateM σ) α} {s s' : σ} {e : CommandError}
    (h : exec x s = (.error e, s')) (f : α → Step (StateM σ) β) :
    exec (x >>= f) s = (.error e, s') := by
  rw [exec_bind, h]

/-- Steps that succeed without changing the state, one for each element of a list. -/
theorem exec_mapM {f : α → Step (StateM σ) β} {g : α → β} {s : σ}
    (h : ∀ a, exec (f a) s = (.ok (g a), s)) (as : List α) :
    exec (as.mapM f) s = (.ok (as.map g), s) := by
  induction as with
  | nil => rfl
  | cons a as ih =>
    rw [List.mapM_cons, exec_bind_of_ok (h a), exec_bind_of_ok ih, exec_pure, List.map_cons]

theorem exec_reportFailed_snd (failed total : Nat) (s : σ) :
    (exec (reportFailed failed total) s).2 = s := by
  rw [reportFailed]
  split_ifs with h
  · rfl
  · rfl

/-- Reporting the failures at the end leaves the state as it is. -/
theorem exec_bind_reportFailed_snd (x : Step (StateM σ) Unit) (failed total : Nat) (s : σ) :
    (exec (x >>= fun _ => reportFailed failed total) s).2 = (exec x s).2 := by
  rw [exec_bind]
  cases exec x s with
  | mk result s' =>
    cases result with
    | error e => rfl
    | ok a => exact exec_reportFailed_snd failed total s'

end Exec

/-! ## File systems with a state -/

/-- The files that were written with what was written to them, in order. -/
abbrev WriteLog := List (Path × Bytes)

/-- A file system with a state, which reading does not change. -/
structure Store (σ : Type) extends FileSystem (StateM σ) where
  /-- The content of the file that a path leads to, if it can be read. -/
  content : σ → Path → Option Bytes
  run_read : ∀ path s, (read path).run s = (content s path, s)

/-- Modelled files. -/
def World.store : Store World :=
  { World.fileSystem with
    content := fun w path => w.tree.read path
    run_read := fun _ _ => rfl }

namespace Store

variable {σ : Type} (fs : Store σ)

/-- The file system with a record of what was written, in order. -/
def recorded : Store (σ × WriteLog) where
  read path := fun (s, log) => (fs.content s path, (s, log))
  makeDirectory path := fun (s, log) =>
    let (made, s') := ((fs.makeDirectory path).run s).run
    (made, (s', log))
  write path bytes := fun (s, log) =>
    let (done, s') := ((fs.write path bytes).run s).run
    (done, (s', if done then log ++ [(path, bytes)] else log))
  print line := fun (s, log) =>
    let (_, s') := ((fs.print line).run s).run
    ((), (s', log))
  content := fun (s, _) path => fs.content s path
  run_read _ _ := rfl

/-! ## Reading -/

/-- The glossary in a file. -/
def glossary (s : σ) (path : Path) : Except CommandError Glossary :=
  match (fs.content s path).bind utf8Text? with
  | none => .error (.unreadableGlossary path)
  | some text =>
    match Glossary.parse? text with
    | none => .error (.badGlossary path)
    | some glossary => .ok glossary

/-- Whether a file can be read. -/
def isReadable (s : σ) (path : Path) : Bool := (fs.content s path).isSome

/-- The classes in the files that can be read. -/
def classes (s : σ) (paths : List Path) : List ClassEntry :=
  paths.filterMap fun path => (fs.content s path).map fun bytes => ⟨path, bytes⟩

/-- The outcomes of the classes that can be read, unless the rewrite ends before. -/
def outcomes (s : σ) (settings : Settings) (glossaryPath : Path) (paths : List Path) :
    Except CommandError (List ClassOutcome) :=
  match settings.filter with
  | .error e => .error (.badExclusion e)
  | .ok f =>
    match fs.glossary s glossaryPath with
    | .error e => .error e
    | .ok glossary => .ok (translateClasses f glossary settings.batchSize (fs.classes s paths))

theorem names_classes (s : σ) (paths : List Path) :
    (fs.classes s paths).map (·.name) = paths.filter (fs.isReadable s) := by
  induction paths with
  | nil => rfl
  | cons path paths ih =>
    rw [classes, List.filterMap_cons, List.filter_cons, isReadable]
    cases fs.content s path with
    | none => exact ih
    | some bytes => exact congrArg (path :: ·) ih

theorem classes_filter_readable (s : σ) (paths : List Path) :
    fs.classes s (paths.filter (fs.isReadable s)) = fs.classes s paths := by
  rw [classes, classes, List.filterMap_filter]
  refine List.filterMap_congr fun path _ => ?_
  rw [isReadable]
  cases fs.content s path with
  | none => rfl
  | some bytes => rfl

theorem exec_read (path : Path) (s : σ) :
    exec (fs.read path : Step (StateM σ) (Option Bytes)) s = (.ok (fs.content s path), s) := by
  rw [exec_lift, fs.run_read]
  rfl

theorem exec_readText (path : Path) (unreadable : CommandError) (s : σ) :
    exec (readText fs.toFileSystem path unreadable) s =
      match (fs.content s path).bind utf8Text? with
      | some text => (.ok text, s)
      | none => (.error unreadable, s) := by
  rw [readText, exec_bind_of_ok (fs.exec_read path s)]
  cases (fs.content s path).bind utf8Text? with
  | none => rfl
  | some text => rfl

theorem exec_loadGlossary (path : Path) (s : σ) :
    exec (loadGlossary fs.toFileSystem path) s = (fs.glossary s path, s) := by
  rw [loadGlossary, exec_bind, exec_readText, glossary]
  cases (fs.content s path).bind utf8Text? with
  | none => rfl
  | some text =>
    simp only
    cases Glossary.parse? text with
    | none => rfl
    | some glossary => rfl

theorem exec_readClasses (paths : List Path) (s : σ) :
    exec (readClasses fs.toFileSystem paths) s = (.ok (fs.classes s paths), s) := by
  have hread : ∀ path, exec (do
      let content ← (fs.read path : Step (StateM σ) (Option Bytes))
      return content.map fun bytes => (⟨path, bytes⟩ : ClassEntry)) s =
      (.ok ((fs.content s path).map fun bytes => ⟨path, bytes⟩), s) := by
    intro path
    rw [exec_bind_of_ok (fs.exec_read path s), exec_pure]
  rw [readClasses, exec_bind_of_ok (exec_mapM hread paths), exec_pure, List.filterMap_map, classes]
  rfl

end Store

/-! ## Writing -/

section Writing

variable {m : Type → Type} [Monad m]

/-- Performs steps in order. -/
def performAll (fs : FileSystem m) (steps : List WriteStep) : Step m Unit :=
  steps.forM (performStep fs)

theorem forIn_performStep [LawfulMonad m] (fs : FileSystem m) (steps : List WriteStep) :
    (forIn steps PUnit.unit fun step _ => do
      performStep fs step
      return ForInStep.yield PUnit.unit) = performAll fs steps := by
  rw [performAll]
  induction steps with
  | nil => rfl
  | cons step steps ih =>
    rw [List.forIn_cons, bind_assoc]
    simp only [pure_bind]
    rw [ih]
    rfl

/-- Writes the outcomes of the classes that were read from the given paths. -/
def writeOutcomes (fs : FileSystem m) (outDir : Path) (paths : List Path)
    (outcomes : List ClassOutcome) : Step m Unit := do
  makeDirectory fs outDir
  performAll fs (WriteStep.ofOutcomes outDir paths outcomes)

end Writing

/-- A rewrite whose settings and glossary are right writes the outcomes of the classes that it could
read, and counts what failed. -/
theorem exec_rewrite {σ : Type} (fs : Store σ) (settings : Settings) (glossaryPath outDir : Path)
    (paths : List Path) (s : σ) :
    exec (rewrite fs.toFileSystem settings glossaryPath outDir paths) s =
      match fs.outcomes s settings glossaryPath paths with
      | .error e => (.error e, s)
      | .ok outcomes =>
        let readable := paths.filter (fs.isReadable s)
        let failed := (WriteStep.ofOutcomes outDir readable outcomes).countP (·.isFailed)
        exec (do
          writeOutcomes fs.toFileSystem outDir readable outcomes
          reportFailed (paths.length - readable.length + failed) paths.length) s := by
  rw [rewrite, filterOf, Store.outcomes]
  cases settings.filter with
  | error e => rfl
  | ok f =>
    simp only
    rw [pure_bind, exec_bind, fs.exec_loadGlossary]
    cases fs.glossary s glossaryPath with
    | error e => rfl
    | ok glossary =>
      have hlength : (fs.classes s paths).length = (paths.filter (fs.isReadable s)).length := by
        rw [← fs.names_classes, List.length_map]
      simp only
      rw [exec_bind_of_ok (fs.exec_readClasses paths s), fs.names_classes, hlength,
        forIn_performStep, writeOutcomes, bind_assoc]

/-! ## The record of what is written -/

/-- What a step writes. -/
def WriteStep.writes : WriteStep → WriteLog
  | write path outcome => [(path, outcome.bytes)]
  | noName _ => []
  | taken _ _ => []

/-- The error tells of a directory that could not be made or of a file that could not be written. -/
def CommandError.IsAboutOutput (e : CommandError) : Prop :=
  ∃ path, e = .cannotCreate path ∨ e = .cannotWrite path

section Record

variable {σ : Type} (fs : Store σ)

theorem exec_recorded_makeDirectory (path : Path) (s : σ) (log : WriteLog) :
    exec (fs.recorded.makeDirectory path : Step (StateM (σ × WriteLog)) Bool) (s, log) =
      (.ok ((fs.makeDirectory path).run s).1, (((fs.makeDirectory path).run s).2, log)) :=
  rfl

theorem exec_recorded_write (path : Path) (bytes : Bytes) (s : σ) (log : WriteLog) :
    exec (fs.recorded.write path bytes : Step (StateM (σ × WriteLog)) Bool) (s, log) =
      (.ok ((fs.write path bytes).run s).1, (((fs.write path bytes).run s).2,
        if ((fs.write path bytes).run s).1 then log ++ [(path, bytes)] else log)) :=
  rfl

theorem exec_makeDirectory_cases (path : Path) (s : σ) (log : WriteLog) :
    (∃ s', exec (makeDirectory fs.recorded.toFileSystem path) (s, log) = (.ok (), (s', log))) ∨
      ∃ e s', e.IsAboutOutput ∧ exec (makeDirectory fs.recorded.toFileSystem path) (s, log) =
        (.error e, (s', log)) := by
  rw [makeDirectory, exec_bind_of_ok (exec_recorded_makeDirectory fs path s log)]
  cases ((fs.makeDirectory path).run s).1 with
  | true => exact .inl ⟨_, rfl⟩
  | false => exact .inr ⟨_, _, ⟨path, .inl rfl⟩, rfl⟩

/-- A file that cannot be written is not recorded. -/
theorem exec_write_cases (path : Path) (bytes : Bytes) (s : σ) (log : WriteLog) :
    let write : Step (StateM (σ × WriteLog)) Unit := do
      if !(← (fs.recorded.write path bytes : StateM _ _)) then throw (.cannotWrite path)
    (∃ s', exec write (s, log) = (.ok (), (s', log ++ [(path, bytes)]))) ∨
      ∃ e s', e.IsAboutOutput ∧ exec write (s, log) = (.error e, (s', log)) := by
  intro write
  have hwrite := exec_bind_of_ok (exec_recorded_write fs path bytes s log) fun done =>
    if !done then throw (.cannotWrite path) else pure ()
  cases hdone : ((fs.write path bytes).run s).1 with
  | true =>
    rw [hdone] at hwrite
    exact .inl ⟨_, hwrite⟩
  | false =>
    rw [hdone] at hwrite
    exact .inr ⟨_, _, ⟨path, .inr rfl⟩, hwrite⟩

/-- A step writes all that it says, or it fails and writes nothing. -/
theorem exec_performStep_cases (step : WriteStep) (s : σ) (log : WriteLog) :
    (∃ s', exec (performStep fs.recorded.toFileSystem step) (s, log) =
      (.ok (), (s', log ++ step.writes))) ∨
      ∃ e s', e.IsAboutOutput ∧
        exec (performStep fs.recorded.toFileSystem step) (s, log) = (.error e, (s', log)) := by
  cases step with
  | noName outcome => exact .inl ⟨s, by rw [WriteStep.writes, List.append_nil]; rfl⟩
  | taken path outcome => exact .inl ⟨s, by rw [WriteStep.writes, List.append_nil]; rfl⟩
  | write path outcome =>
    rw [performStep]
    cases path.parent? with
    | none => exact exec_write_cases fs path outcome.bytes s log
    | some parent =>
      simp only
      rcases exec_makeDirectory_cases fs parent s log with ⟨s', hmade⟩ | ⟨e, s', he, hfailed⟩
      · rw [exec_bind_of_ok hmade]
        exact exec_write_cases fs path outcome.bytes s' log
      · rw [exec_bind_of_error hfailed]
        exact .inr ⟨e, s', he, rfl⟩

/-- **Steps write what they say, in order, up to the first one that fails.** -/
theorem exec_performAll_cases (steps : List WriteStep) (s : σ) (log : WriteLog) :
    (∃ s', exec (performAll fs.recorded.toFileSystem steps) (s, log) =
      (.ok (), (s', log ++ steps.flatMap WriteStep.writes))) ∨
      ∃ done e s', done <+: steps ∧ e.IsAboutOutput ∧
        exec (performAll fs.recorded.toFileSystem steps) (s, log) =
          (.error e, (s', log ++ done.flatMap WriteStep.writes)) := by
  -- every step leaves another state and a longer record to the ones after it
  induction steps generalizing s log with
  | nil => exact .inl ⟨s, by rw [List.flatMap_nil, List.append_nil]; rfl⟩
  | cons step steps ih =>
    have hcons : performAll fs.recorded.toFileSystem (step :: steps) =
        performStep fs.recorded.toFileSystem step >>= fun _ =>
          performAll fs.recorded.toFileSystem steps := rfl
    rw [hcons]
    rcases exec_performStep_cases fs step s log with ⟨s', hstep⟩ | ⟨e, s', he, hfailed⟩
    · rw [exec_bind_of_ok hstep]
      rcases ih s' (log ++ step.writes) with ⟨s'', hall⟩ | ⟨done, e, s'', hdone, he, hrest⟩
      · exact .inl ⟨s'', by rw [hall, List.flatMap_cons, List.append_assoc]⟩
      · refine .inr ⟨step :: done, e, s'', List.cons_prefix_cons.2 ⟨rfl, hdone⟩, he, ?_⟩
        rw [hrest, List.flatMap_cons, List.append_assoc]
    · rw [exec_bind_of_error hfailed]
      exact .inr ⟨[], e, s', List.nil_prefix, he, by rw [List.flatMap_nil, List.append_nil]⟩

/-- Writing outcomes writes what all of their steps say, or it fails, for a directory or a file, and
has written what the first of them say. -/
theorem exec_writeOutcomes_cases (outDir : Path) (paths : List Path) (outcomes : List ClassOutcome)
    (s : σ) (log : WriteLog) :
    (∃ s', exec (writeOutcomes fs.recorded.toFileSystem outDir paths outcomes) (s, log) =
      (.ok (), (s', log ++
        (WriteStep.ofOutcomes outDir paths outcomes).flatMap WriteStep.writes))) ∨
      ∃ done e s', done <+: WriteStep.ofOutcomes outDir paths outcomes ∧ e.IsAboutOutput ∧
        exec (writeOutcomes fs.recorded.toFileSystem outDir paths outcomes) (s, log) =
          (.error e, (s', log ++ done.flatMap WriteStep.writes)) := by
  rw [writeOutcomes]
  rcases exec_makeDirectory_cases fs outDir s log with ⟨s', hmade⟩ | ⟨e, s', he, hfailed⟩
  · rw [exec_bind_of_ok hmade]
    exact exec_performAll_cases fs (WriteStep.ofOutcomes outDir paths outcomes) s' log
  · rw [exec_bind_of_error hfailed]
    exact .inr ⟨[], e, s', List.nil_prefix, he, by rw [List.flatMap_nil, List.append_nil]⟩

/-- What is written of outcomes is what the first of their steps say. -/
theorem written_writeOutcomes (outDir : Path) (paths : List Path) (outcomes : List ClassOutcome)
    (s : σ) (log : WriteLog) :
    ∃ done, done <+: WriteStep.ofOutcomes outDir paths outcomes ∧
      (exec (writeOutcomes fs.recorded.toFileSystem outDir paths outcomes) (s, log)).2.2 =
        log ++ done.flatMap WriteStep.writes := by
  rcases exec_writeOutcomes_cases fs outDir paths outcomes s log with
    ⟨s', hall⟩ | ⟨done, e, s', hdone, -, hsome⟩
  · exact ⟨_, List.prefix_rfl, by rw [hall]⟩
  · exact ⟨done, hdone, by rw [hsome]⟩

end Record

end ClassLiterals.Command
