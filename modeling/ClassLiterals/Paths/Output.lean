import ClassLiterals.Paths.Basic

/-!
# Where outputs go

Every input goes to a place below the output directory: its path below the deepest directory that
all inputs share. Steps to the root, to the same directory and to a directory above are left out, so
no output lies outside the output directory.
-/

namespace ClassLiterals.Path

/-- The length of the longest common beginning of two lists. -/
def commonLength {α : Type} [DecidableEq α] : List α → List α → Nat
  | a :: as, b :: bs => if a = b then commonLength as bs + 1 else 0
  | _, _ => 0

/-- The number of steps that all lists begin with. -/
def sharedLength : List (List PathComponent) → Nat
  | [] => 0
  | first :: rest => rest.foldl (fun n steps => min n (commonLength first steps)) first.length

/-- The path of an input below the directory that the first `shared` of its steps lead to. -/
def below (shared : Nat) (p : Path) : Path :=
  ofNames ((p.components.drop shared).filterMap PathComponent.name?)

/-- The output path of every input, in the order of the inputs. -/
def outputs (outDir : Path) (inputs : List Path) : List Path :=
  let shared := sharedLength (inputs.map parentComponents)
  inputs.map fun p => outDir.join (below shared p)

end ClassLiterals.Path
