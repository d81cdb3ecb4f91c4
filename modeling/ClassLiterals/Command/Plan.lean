import ClassLiterals.Batch
import ClassLiterals.Paths.Output

/-!
# What a rewrite writes

Every class that could be read has an output path. Two classes may have the same one, if they were
given twice or under paths that differ in the steps left out; then the first one is written. A class
that lies directly at the shared directory has no name below it, and is not written either.
-/

namespace ClassLiterals.Command

/-- What to do with the outcome of a class. -/
inductive WriteStep where
  | write (path : Path) (outcome : ClassOutcome)
  /-- The output path is the output directory. -/
  | noName (outcome : ClassOutcome)
  /-- An earlier class has the same output path. -/
  | taken (path : Path) (outcome : ClassOutcome)

namespace WriteStep

/-- The steps for outcomes with their output paths. `written` holds the output paths so far, by
their components. -/
def plan (outDir : Path) : (written : List (List PathComponent)) → List (Path × ClassOutcome) →
    List WriteStep
  | _, [] => []
  | written, (path, outcome) :: rest =>
    if path.components = outDir.components then .noName outcome :: plan outDir written rest
    else if written.contains path.components then .taken path outcome :: plan outDir written rest
    else .write path outcome :: plan outDir (path.components :: written) rest

/-- The steps for the classes that were read from the given paths. -/
def ofOutcomes (outDir : Path) (paths : List Path) (outcomes : List ClassOutcome) :
    List WriteStep :=
  plan outDir [] ((Path.outputs outDir paths).zip outcomes)

/-- Whether the class counts as failed: it is not written, or it could not be rewritten. -/
def isFailed : WriteStep → Bool
  | write _ outcome =>
    match outcome.report with
    | .ok _ => false
    | .error _ => true
  | noName _ => true
  | taken _ _ => true

end WriteStep

end ClassLiterals.Command
