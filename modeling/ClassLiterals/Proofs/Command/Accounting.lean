import Mathlib
import ClassLiterals.Proofs.Batch.Outcomes
import ClassLiterals.Proofs.Batch.Pipeline
import ClassLiterals.Proofs.Command.Plans
import ClassLiterals.Proofs.Paths.Outputs
import ClassLiterals.Proofs.Rewrite.Partition

/-!
# What becomes of the inputs

A rewrite takes its inputs through several lists: those that can be read, their classes, the
outcomes, the output paths, the steps. In the end every input is accounted for by what it is and
what comes before it. It is written at its output path with its own outcome, or it fails: it cannot
be read, its output path is the output directory, an input before it has the same output path, or it
is written but holds no class. The command fails exactly if some input does, and tells how many.

Main result: `rewrite_accounts_for_inputs`.
-/

namespace ClassLiterals

/-- A class fails exactly if its bytes are no class. -/
theorem ClassOutcome.report_eq_error_iff {f : VisibilityFilter} {d : Dictionary} {e : ClassEntry} :
    (∃ err, (ofEntry f d e).report = .error err) ↔ e.isReadable = false := by
  unfold ofEntry ClassEntry.isReadable
  cases h : rewriteClass f d e.bytes with
  | error err =>
    obtain ⟨e', hparse, -⟩ := ClassFile.rewriteClass_eq_error_iff.1 h
    simp [hparse, Except.isOk, Except.toBool]
  | ok r =>
    cases hparse : ClassFile.parse e.bytes with
    | error e' =>
      rw [ClassFile.rewriteClass_eq_error_iff.2 ⟨e', hparse, rfl⟩] at h
      cases h
    | ok c => simp [Except.isOk, Except.toBool]

/-- Counting the elements that a map leaves out together with those whose images have a property. -/
theorem countP_filterMap_add {α β : Type} (f : α → Option β) (q : β → Bool) (as : List α) :
    as.length - (as.filterMap f).length + (as.filterMap f).countP q =
      as.countP fun a => (f a).all q := by
  have hadd : as.length + (as.filterMap f).countP q =
      (as.countP fun a => (f a).all q) + (as.filterMap f).length := by
    induction as with
    | nil => rfl
    | cons a as ih =>
      rw [List.length_cons, List.countP_cons]
      cases h : f a with
      | none =>
        rw [List.filterMap_cons_none h, Option.all_none, if_pos rfl]
        omega
      | some b =>
        rw [List.filterMap_cons_some h, Option.all_some, List.length_cons, List.countP_cons]
        omega
  have hle : (as.filterMap f).length ≤ as.length := List.length_filterMap_le f as
  omega

namespace Command

/-- A class that is written fails exactly if its bytes are no class. -/
theorem WriteStep.isFailed_write (f : VisibilityFilter) (d : Dictionary) (path : Path)
    (e : ClassEntry) : (write path (ClassOutcome.ofEntry f d e)).isFailed = !e.isReadable := by
  have hiff : (write path (ClassOutcome.ofEntry f d e)).isFailed = true ↔
      ∃ err, (ClassOutcome.ofEntry f d e).report = .error err := by
    rw [isFailed]
    cases (ClassOutcome.ofEntry f d e).report with
    | error err => simp
    | ok report => simp
  rw [Bool.eq_iff_iff, hiff, ClassOutcome.report_eq_error_iff, Bool.not_eq_true']

/-! ## What the inputs are -/

namespace Store

variable {σ : Type} (fs : Store σ) (s : σ) (outDir : Path) (paths : List Path)

/-- The output path that the inputs that can be read give to one of them. -/
def outputOf (p : Path) : Path := Path.outputOf outDir (paths.filter (fs.isReadable s)) p

/-- Whether the output path is the output directory. -/
def isNameless (p : Path) : Bool := (fs.outputOf s outDir paths p).components = outDir.components

/-- Whether the second input can be read and has the same output path as the first one. -/
def collides (p q : Path) : Bool :=
  fs.isReadable s q &&
    decide ((fs.outputOf s outDir paths q).components = (fs.outputOf s outDir paths p).components)

/-- Whether one of the inputs before the given one has the same output path. -/
def isTaken (before : List Path) (p : Path) : Bool := before.any (fs.collides s outDir paths p)

/-- Whether the input is the first one that can be read with its output path, and this is not the
output directory. -/
def isWritten (before : List Path) (p : Path) : Bool :=
  fs.isReadable s p && !fs.isNameless s outDir paths p && !fs.isTaken s outDir paths before p

/-- Whether the input can be read but holds no class. -/
def isGarbled (p : Path) : Bool :=
  match fs.content s p with
  | some bytes => !(ClassFile.parse bytes).isOk
  | none => false

/-- Whether the input fails, when the given ones are before it. -/
def isFailed (before : List Path) (p : Path) : Bool :=
  !fs.isReadable s p || fs.isNameless s outDir paths p || fs.isTaken s outDir paths before p ||
    (fs.isWritten s outDir paths before p && fs.isGarbled s p)

/-- The number of inputs that fail, each in its place. -/
def failedCount : Nat :=
  (withBefore [] paths).countP fun x => fs.isFailed s outDir paths x.1 x.2

/-- The class in an input, if it can be read. -/
def entry? (p : Path) : Option ClassEntry := (fs.content s p).map fun bytes => ⟨p, bytes⟩

/-- What is done with the outcome of an input that can be read. -/
def stepOf (before : List Path) (p : Path) (outcome : ClassOutcome) : WriteStep :=
  if fs.isNameless s outDir paths p then .noName outcome
  else if fs.isTaken s outDir paths before p then .taken (fs.outputOf s outDir paths p) outcome
  else .write (fs.outputOf s outDir paths p) outcome

/-- What is done with an input, if it can be read, after the ones before it. -/
def step? (f : VisibilityFilter) (d : Dictionary) (x : List Path × Path) : Option WriteStep :=
  (fs.entry? s x.2).map fun e => fs.stepOf s outDir paths x.1 x.2 (ClassOutcome.ofEntry f d e)

variable {fs s outDir paths}

theorem collides_iff {p q : Path} : fs.collides s outDir paths p q = true ↔
    fs.isReadable s q = true ∧
      (fs.outputOf s outDir paths q).components = (fs.outputOf s outDir paths p).components := by
  simp [collides]

theorem isTaken_iff {before : List Path} {p : Path} : fs.isTaken s outDir paths before p = true ↔
    ∃ q ∈ before, fs.isReadable s q = true ∧
      (fs.outputOf s outDir paths q).components = (fs.outputOf s outDir paths p).components := by
  simp [isTaken, collides_iff]

theorem isReadable_iff {p : Path} :
    fs.isReadable s p = true ↔ ∃ content, fs.content s p = some content :=
  Option.isSome_iff_exists

/-- An output path that is taken is the one of an input before that is written. -/
theorem exists_isWritten_of_isTaken {before : List Path} {p : Path}
    (htaken : fs.isTaken s outDir paths before p = true)
    (hname : fs.isNameless s outDir paths p = false) :
    ∃ before' q after', before = before' ++ q :: after' ∧
      fs.isWritten s outDir paths before' q = true ∧
      (fs.outputOf s outDir paths q).components = (fs.outputOf s outDir paths p).components := by
  obtain ⟨q, hfind⟩ := Option.isSome_iff_exists.1 (List.find?_isSome.2 (List.any_eq_true.1 htaken))
  obtain ⟨hcollides, before', after', rfl, hfirst⟩ := List.find?_eq_some_iff_append.1 hfind
  obtain ⟨hread, hpath⟩ := collides_iff.1 hcollides
  refine ⟨before', q, after', rfl, ?_, hpath⟩
  have hnameq : fs.isNameless s outDir paths q = false := by
    rw [isNameless, hpath]
    exact hname
  have hfree : fs.isTaken s outDir paths before' q = false := by
    rw [Bool.eq_false_iff, Ne, isTaken_iff]
    rintro ⟨q', hmem, hread', hpath'⟩
    have hnot : fs.collides s outDir paths p q' = false := by simpa using hfirst q' hmem
    rw [collides_iff.2 ⟨hread', hpath'.trans hpath⟩] at hnot
    cases hnot
  rw [isWritten, hread, hnameq, hfree]
  rfl

/-! ## Steps -/

theorem isWritten_eq_false {before : List Path} {p : Path}
    (hread : fs.isReadable s p = true) (h : fs.isWritten s outDir paths before p = false) :
    fs.isNameless s outDir paths p = true ∨
      fs.isNameless s outDir paths p = false ∧ fs.isTaken s outDir paths before p = true := by
  rw [isWritten, hread] at h
  cases hname : fs.isNameless s outDir paths p with
  | true => exact .inl rfl
  | false => exact .inr ⟨rfl, by simpa [hname] using h⟩

theorem map_outputOf_classes (inputs : List Path) :
    ((fs.classes s inputs).map fun e => fs.outputOf s outDir paths e.name) =
      (inputs.filter (fs.isReadable s)).map (fs.outputOf s outDir paths) := by
  rw [← fs.names_classes, List.map_map]
  rfl

theorem stepAfter_eq (before : List Path) (p : Path) (outcome : ClassOutcome) :
    WriteStep.stepAfter outDir
      ((fs.classes s before).map fun e => fs.outputOf s outDir paths e.name)
      (fs.outputOf s outDir paths p) outcome = fs.stepOf s outDir paths before p outcome := by
  have htaken : (∃ q ∈ (before.filter (fs.isReadable s)).map (fs.outputOf s outDir paths),
      q.components = (fs.outputOf s outDir paths p).components) ↔
        fs.isTaken s outDir paths before p = true := by
    rw [isTaken_iff]
    simp [and_assoc]
  rw [WriteStep.stepAfter, stepOf, map_outputOf_classes]
  simp only [htaken, isNameless, decide_eq_true_eq]

/-- The outcomes with their output paths, each after those before it. -/
theorem withBefore_zip_outputs (f : VisibilityFilter) (d : Dictionary) :
    withBefore [] ((Path.outputs outDir (paths.filter (fs.isReadable s))).zip
        (rewriteClasses f d (fs.classes s paths))) =
      (withBefore [] paths).filterMap fun x => (fs.entry? s x.2).map fun e =>
        ((fs.classes s x.1).map fun e =>
            (fs.outputOf s outDir paths e.name, ClassOutcome.ofEntry f d e),
          fs.outputOf s outDir paths e.name, ClassOutcome.ofEntry f d e) := by
  have houtputs : Path.outputs outDir (paths.filter (fs.isReadable s)) =
      (fs.classes s paths).map fun e => fs.outputOf s outDir paths e.name :=
    (map_outputOf_classes paths).symm
  have hclasses : withBefore [] (fs.classes s paths) =
      (withBefore [] paths).filterMap fun x => (fs.entry? s x.2).map fun e =>
        (fs.classes s x.1, e) :=
    withBefore_filterMap (fs.entry? s) [] paths
  rw [houtputs, rewriteClasses, List.zip_map']
  have hmap := withBefore_map (fun e : ClassEntry =>
    (fs.outputOf s outDir paths e.name, ClassOutcome.ofEntry f d e)) [] (fs.classes s paths)
  rw [List.map_nil] at hmap
  rw [hmap, hclasses, List.map_filterMap]
  simp only [Option.map_map]
  rfl

/-- **The steps of a rewrite, input by input.** The lists that the inputs go through stay aligned:
what is done with an input is told by its output path and by those of the inputs before it. -/
theorem ofOutcomes_eq (f : VisibilityFilter) (d : Dictionary) :
    WriteStep.ofOutcomes outDir (paths.filter (fs.isReadable s))
        (rewriteClasses f d (fs.classes s paths)) =
      (withBefore [] paths).filterMap (fs.step? s outDir paths f d) := by
  have hplan : ∀ pairs, WriteStep.plan outDir [] pairs = (withBefore [] pairs).map fun x =>
      WriteStep.stepAfter outDir (x.1.map Prod.fst) x.2.1 x.2.2 :=
    fun pairs => WriteStep.plan_eq fun steps _ => by simp
  rw [WriteStep.ofOutcomes, hplan, withBefore_zip_outputs, List.map_filterMap]
  refine List.filterMap_congr fun x _ => ?_
  rw [step?, entry?, Option.map_map, Option.map_map, Option.map_map]
  refine congrArg (Option.map · (fs.content s x.2)) (funext fun bytes => ?_)
  simp only [Function.comp_apply, List.map_map]
  exact stepAfter_eq x.1 x.2 _

theorem writes_stepOf {before : List Path} {p : Path} (hread : fs.isReadable s p = true)
    (outcome : ClassOutcome) :
    (fs.stepOf s outDir paths before p outcome).writes =
      if fs.isWritten s outDir paths before p then [(fs.outputOf s outDir paths p, outcome.bytes)]
      else [] := by
  rw [stepOf, isWritten, hread]
  cases fs.isNameless s outDir paths p with
  | true => rfl
  | false =>
    cases fs.isTaken s outDir paths before p with
    | true => rfl
    | false => rfl

theorem isGarbled_of_content {p : Path} {bytes : Bytes} (h : fs.content s p = some bytes) :
    fs.isGarbled s p = !ClassEntry.isReadable ⟨p, bytes⟩ := by
  rw [isGarbled, h, ClassEntry.isReadable]

theorem isFailed_stepOf (f : VisibilityFilter) (d : Dictionary) {before : List Path} {p : Path}
    {bytes : Bytes} (h : fs.content s p = some bytes) :
    (fs.stepOf s outDir paths before p (ClassOutcome.ofEntry f d ⟨p, bytes⟩)).isFailed =
      fs.isFailed s outDir paths before p := by
  have hread : fs.isReadable s p = true := isReadable_iff.2 ⟨bytes, h⟩
  rw [stepOf, isFailed, isWritten, hread, isGarbled_of_content h]
  cases fs.isNameless s outDir paths p with
  | true => rfl
  | false =>
    cases fs.isTaken s outDir paths before p with
    | true => rfl
    | false => exact WriteStep.isFailed_write f d _ _

/-- The inputs that cannot be read and the steps that fail are the inputs that fail. -/
theorem failedCount_eq (f : VisibilityFilter) (d : Dictionary) :
    paths.length - (paths.filter (fs.isReadable s)).length +
      (WriteStep.ofOutcomes outDir (paths.filter (fs.isReadable s))
        (rewriteClasses f d (fs.classes s paths))).countP (·.isFailed) =
      fs.failedCount s outDir paths := by
  have hread : ∀ x, (fs.step? s outDir paths f d x).isSome = fs.isReadable s x.2 := by
    intro x
    rw [step?, entry?, Option.isSome_map, Option.isSome_map, isReadable]
  have hlength : (paths.filter (fs.isReadable s)).length =
      ((withBefore [] paths).filterMap (fs.step? s outDir paths f d)).length := by
    conv_lhs => rw [← map_snd_withBefore [] paths, ← List.countP_eq_length_filter, List.countP_map]
    rw [List.length_filterMap_eq_countP]
    exact List.countP_congr fun x _ => by rw [hread, Function.comp_apply]
  have hfailed : ∀ x, (fs.step? s outDir paths f d x).all (·.isFailed) =
      fs.isFailed s outDir paths x.1 x.2 := by
    intro x
    cases h : fs.content s x.2 with
    | none => simp [step?, entry?, h, isFailed, isReadable]
    | some bytes => simpa [step?, entry?, h] using isFailed_stepOf f d h
  rw [hlength, ofOutcomes_eq, ← length_withBefore [] paths, countP_filterMap_add, failedCount]
  simp only [hfailed]

/-- What a rewrite writes, input by input. -/
theorem mem_writes_ofOutcomes_iff (f : VisibilityFilter) (d : Dictionary) {path : Path}
    {bytes : Bytes} :
    (path, bytes) ∈ (WriteStep.ofOutcomes outDir (paths.filter (fs.isReadable s))
        (rewriteClasses f d (fs.classes s paths))).flatMap WriteStep.writes ↔
      ∃ before p after content, paths = before ++ p :: after ∧ fs.content s p = some content ∧
        fs.isWritten s outDir paths before p = true ∧ path = fs.outputOf s outDir paths p ∧
        bytes = (ClassOutcome.ofEntry f d ⟨p, content⟩).bytes := by
  rw [ofOutcomes_eq, List.mem_flatMap]
  constructor
  · rintro ⟨step, hstep, hwrites⟩
    obtain ⟨⟨before, p⟩, hx, hmap⟩ := List.mem_filterMap.1 hstep
    obtain ⟨e, hentry, rfl⟩ := Option.map_eq_some_iff.1 hmap
    obtain ⟨content, hcontent, rfl⟩ := Option.map_eq_some_iff.1 hentry
    obtain ⟨front, after, hpaths, hfront⟩ := mem_withBefore.1 hx
    obtain rfl : before = front := hfront
    rw [writes_stepOf (isReadable_iff.2 ⟨content, hcontent⟩)] at hwrites
    split_ifs at hwrites with hwritten
    · obtain ⟨rfl, rfl⟩ := Prod.mk.inj (List.mem_singleton.1 hwrites)
      exact ⟨before, p, after, content, hpaths, hcontent, hwritten, rfl, rfl⟩
    · cases hwrites
  · rintro ⟨before, p, after, content, hpaths, hcontent, hwritten, rfl, rfl⟩
    have hmem : (before, p) ∈ withBefore [] paths :=
      mem_withBefore.2 ⟨before, after, hpaths, rfl⟩
    refine ⟨fs.stepOf s outDir paths before p (ClassOutcome.ofEntry f d ⟨p, content⟩),
      List.mem_filterMap.2 ⟨(before, p), hmem, by rw [step?, entry?, hcontent]; rfl⟩, ?_⟩
    rw [writes_stepOf (isReadable_iff.2 ⟨content, hcontent⟩), if_pos hwritten]
    exact List.mem_singleton_self _

end Store

/-! ## The account -/

/-- What became of the inputs of a rewrite, where `outcome` is what becomes of each class. -/
structure Accounts {σ : Type} (fs : Store σ) (s : σ) (outDir : Path) (paths : List Path)
    (outcome : ClassEntry → ClassOutcome) (result : Except CommandError Unit) (log : WriteLog) :
    Prop where
  /-- No path is written twice. -/
  nodup_log : (log.map fun w => w.1.components).Nodup
  /-- Written is the outcome of the first input with its output path. -/
  mem_log_iff : ∀ path bytes, (path, bytes) ∈ log ↔
    ∃ before p after content, paths = before ++ p :: after ∧ fs.content s p = some content ∧
      fs.isWritten s outDir paths before p = true ∧ path = fs.outputOf s outDir paths p ∧
      bytes = (outcome ⟨p, content⟩).bytes
  /-- Every input that can be read is written at its output path, or it fails since its output path
  is the output directory or the path of an input before it that is written. -/
  written_or_failed : ∀ before p after content, paths = before ++ p :: after →
    fs.content s p = some content →
      fs.isWritten s outDir paths before p = true ∧
          (fs.outputOf s outDir paths p, (outcome ⟨p, content⟩).bytes) ∈ log ∨
        fs.isFailed s outDir paths before p = true ∧
          (fs.isNameless s outDir paths p = true ∨
            ∃ front q back, before = front ++ q :: back ∧
              fs.isWritten s outDir paths front q = true ∧
              (fs.outputOf s outDir paths q).components =
                (fs.outputOf s outDir paths p).components)
  /-- A class that cannot be rewritten, or in which nothing was replaced, keeps its bytes. -/
  bytes_eq : ∀ e, e.isReadable = false ∨ (outcome e).isModified = false →
    (outcome e).bytes = e.bytes
  /-- The command fails exactly if some input does, and tells how many do. -/
  result_eq : result =
    if fs.failedCount s outDir paths = 0 then .ok ()
    else .error (.classesFailed (fs.failedCount s outDir paths) paths.length)

section Account

variable {σ : Type} {fs : Store σ} {settings : Settings} {f : VisibilityFilter}
  {glossaryPath outDir : Path} {glossary : Glossary} {paths : List Path} {s : σ}

theorem outcomes_eq_rewriteClasses (paths : List Path) (hfilter : settings.filter = .ok f)
    (hglossary : fs.glossary s glossaryPath = .ok glossary) :
    fs.outcomes s settings glossaryPath paths = .ok (rewriteClasses f
      ((runTranslations f glossary settings.batchSize (fs.classes s paths))[·]?)
      (fs.classes s paths)) := by
  rw [Store.outcomes, hfilter, hglossary]
  simp only
  rw [translateClasses_eq]

/-- A rewrite that could write all files recorded what its steps say, and ends as its inputs
tell. -/
theorem exec_rewrite_of_ok {d : Dictionary}
    (houtcomes : fs.outcomes s settings glossaryPath paths =
      .ok (rewriteClasses f d (fs.classes s paths)))
    (hwritten : ∀ e, (exec (rewrite fs.recorded.toFileSystem settings glossaryPath outDir paths)
      (s, [])).1 = .error e → ¬ e.IsAboutOutput) :
    ∃ s', exec (rewrite fs.recorded.toFileSystem settings glossaryPath outDir paths) (s, []) =
      (if fs.failedCount s outDir paths = 0 then .ok ()
        else .error (.classesFailed (fs.failedCount s outDir paths) paths.length),
        (s', (WriteStep.ofOutcomes outDir (paths.filter (fs.isReadable s))
          (rewriteClasses f d (fs.classes s paths))).flatMap WriteStep.writes)) := by
  have hrun := exec_rewrite fs.recorded settings glossaryPath outDir paths (s, [])
  rw [show fs.recorded.outcomes (s, []) settings glossaryPath paths =
      fs.outcomes s settings glossaryPath paths from rfl, houtcomes] at hrun
  simp only at hrun
  rw [show fs.recorded.isReadable (s, []) = fs.isReadable s from rfl,
    Store.failedCount_eq f d] at hrun
  rw [hrun] at hwritten ⊢
  rcases exec_writeOutcomes_cases fs outDir (paths.filter (fs.isReadable s))
    (rewriteClasses f d (fs.classes s paths)) s [] with ⟨s', hall⟩ | ⟨done, e, s', -, he, hsome⟩
  · rw [exec_bind_of_ok hall, List.nil_append, reportFailed]
    refine ⟨s', ?_⟩
    split_ifs with hfailed
    · rfl
    · rfl
  · rw [exec_bind_of_error hsome] at hwritten
    exact absurd he (hwritten e rfl)

/-- What the steps of a rewrite write, and what it then reports, accounts for its inputs. -/
theorem accounts_ofOutcomes (fs : Store σ) (s : σ) (outDir : Path) (paths : List Path)
    (f : VisibilityFilter) (d : Dictionary) :
    Accounts fs s outDir paths (ClassOutcome.ofEntry f d)
      (if fs.failedCount s outDir paths = 0 then .ok ()
        else .error (.classesFailed (fs.failedCount s outDir paths) paths.length))
      ((WriteStep.ofOutcomes outDir (paths.filter (fs.isReadable s))
        (rewriteClasses f d (fs.classes s paths))).flatMap WriteStep.writes) := by
  constructor
  case nodup_log => exact (WriteStep.nodup_writes_plan outDir [] _).1
  case mem_log_iff => exact fun path bytes => Store.mem_writes_ofOutcomes_iff f d
  case written_or_failed =>
    intro before p after content hpaths hcontent
    have hread : fs.isReadable s p = true := Store.isReadable_iff.2 ⟨content, hcontent⟩
    cases hwritten : fs.isWritten s outDir paths before p with
    | true =>
      exact .inl ⟨rfl, (Store.mem_writes_ofOutcomes_iff f d).2
        ⟨before, p, after, content, hpaths, hcontent, hwritten, rfl, rfl⟩⟩
    | false =>
      refine .inr ?_
      rcases Store.isWritten_eq_false hread hwritten with hname | ⟨hname, htaken⟩
      · exact ⟨by simp [Store.isFailed, hname], .inl hname⟩
      · exact ⟨by simp [Store.isFailed, htaken],
          .inr (Store.exists_isWritten_of_isTaken htaken hname)⟩
  case bytes_eq =>
    intro e he
    refine (ClassOutcome.tellsTruth_ofEntry f d e).bytes_eq_iff.2 ?_
    rcases he with hread | hmodified
    · exact (ClassOutcome.isModified_eq_false_iff _).2
        (.inl (ClassOutcome.report_eq_error_iff.2 hread))
    · exact hmodified
  case result_eq => rfl

/-- **A rewrite accounts for all its inputs.**  If the settings and the glossary are right and all
directories can be made and all files written, then no path is written twice, every input that can
be read is written or fails, and the command fails exactly if some input does. -/
theorem rewrite_accounts_for_inputs (fs : Store σ) (hfilter : settings.filter = .ok f)
    (hglossary : fs.glossary s glossaryPath = .ok glossary)
    (hwritten : ∀ e, (exec (rewrite fs.recorded.toFileSystem settings glossaryPath outDir paths)
      (s, [])).1 = .error e → ¬ e.IsAboutOutput) :
    let run := exec (rewrite fs.recorded.toFileSystem settings glossaryPath outDir paths) (s, [])
    Accounts fs s outDir paths
      (ClassOutcome.ofEntry f
        ((runTranslations f glossary settings.batchSize (fs.classes s paths))[·]?))
      run.1 run.2.2 := by
  obtain ⟨s', hrun⟩ := exec_rewrite_of_ok
    (outcomes_eq_rewriteClasses paths hfilter hglossary) hwritten
  rw [hrun]
  exact accounts_ofOutcomes fs s outDir paths f _

end Account

/-- A glossary without entries, a class without anything in it and a file that is no class. -/
def mixedFiles : World :=
  World.ofFiles [("g.ron", "{}".toUTF8.toList),
    ("in/a/A.class", [0xCA, 0xFE, 0xBA, 0xBE, 0x00, 0x00, 0x00, 0x34, 0x00, 0x01, 0x00, 0x00,
      0x00, 0x00, 0x00, 0x00, 0x00, 0x00, 0x00, 0x00, 0x00, 0x00, 0x00, 0x00]),
    ("in/a/B.class", [0xCA, 0xFE])]

/-- The inputs: the class twice, under different paths, the file that is no class and a missing
one. -/
def mixedInputs : List Path := ["in/a/A.class", "in/./a/A.class", "in/a/B.class", "in/C.class"]

/-- The class is written, and the file that is none is written but fails. The class named again and
the missing file fail, too. -/
theorem mixedFiles_accounted :
    ∃ f glossary, ({} : Settings).filter = .ok f ∧
      World.store.glossary mixedFiles "g.ron" = .ok glossary ∧
      let run := exec (rewrite World.store.recorded.toFileSystem {} "g.ron" "out" mixedInputs)
        (mixedFiles, [])
      run.1 = .error (.classesFailed 3 4) ∧ run.2.2.map (·.1) = ["out/A.class", "out/B.class"] ∧
        Accounts World.store mixedFiles "out" mixedInputs
          (ClassOutcome.ofEntry f ((runTranslations f glossary ({} : Settings).batchSize
            (World.store.classes mixedFiles mixedInputs))[·]?))
          run.1 run.2.2 := by
  have hrun : (exec (rewrite World.store.recorded.toFileSystem {} "g.ron" "out" mixedInputs)
      (mixedFiles, [])).1 = .error (.classesFailed 3 4) := by decide +kernel
  obtain ⟨f, hfilter⟩ : ∃ f, ({} : Settings).filter = .ok f := ⟨_, rfl⟩
  have hok : (World.store.glossary mixedFiles "g.ron").isOk = true := by decide +kernel
  cases hglossary : World.store.glossary mixedFiles "g.ron" with
  | error e =>
    rw [hglossary] at hok
    cases hok
  | ok glossary =>
    refine ⟨f, glossary, hfilter, rfl, hrun, by decide +kernel, ?_⟩
    refine rewrite_accounts_for_inputs World.store hfilter hglossary fun e he => ?_
    rw [hrun] at he
    cases he
    rintro ⟨path, h | h⟩
    · cases h
    · cases h

end Command
end ClassLiterals
