/-!
# Paths

A path is a text in which slashes separate the steps. What a path means is told by its components:
repeated slashes, slashes at the end and steps to the same directory do not count, except that a
path may start with such a step.
-/

namespace ClassLiterals

/-- A path, as it is written. -/
abbrev Path := String

/-- A step of a path. -/
inductive PathComponent where
  /-- The root directory; only the first step can be one. -/
  | root
  /-- The same directory; only the first step can be one. -/
  | current
  /-- The directory above. -/
  | parent
  /-- The entry of a directory with the given name. -/
  | normal (name : String)
  deriving DecidableEq, Repr

namespace PathComponent

/-- The name of a step into a directory. -/
def name? : PathComponent → Option String
  | normal name => some name
  | _ => none

end PathComponent

namespace Path

/-- The pieces of a text between its slashes. -/
def pieces : List Char → List (List Char)
  | [] => [[]]
  | c :: cs =>
    if c = '/' then [] :: pieces cs
    else
      match pieces cs with
      | [] => [[c]]
      | p :: ps => (c :: p) :: ps

/-- The pieces with slashes between them. -/
def joinPieces : List (List Char) → List Char
  | [] => []
  | [p] => p
  | p :: ps => p ++ '/' :: joinPieces ps

/-- The step that a piece after the first one stands for. -/
def componentOf? (piece : List Char) : Option PathComponent :=
  if piece = [] ∨ piece = ['.'] then none
  else if piece = ['.', '.'] then some .parent
  else some (.normal (String.ofList piece))

/-- The step that a first piece stands for: an empty one, which something follows, is the root. -/
def firstComponentOf? (piece : List Char) (followed : Bool) : Option PathComponent :=
  if piece = [] then if followed then some .root else none
  else if piece = ['.'] then some .current
  else componentOf? piece

/-- The steps of a path. -/
def components (p : Path) : List PathComponent :=
  match pieces p.toList with
  | [] => []
  | first :: rest => (firstComponentOf? first !rest.isEmpty).toList ++ rest.filterMap componentOf?

/-- Whether the path starts at the root. -/
def isAbsolute (p : Path) : Bool := p.toList.head? == some '/'

/-- The path `q`, taken from the directory `p`. -/
def join (p q : Path) : Path :=
  if q.isAbsolute || p.isEmpty then q
  else if p.toList.getLast? = some '/' then p ++ q
  else p ++ "/" ++ q

/-- The path that takes the given steps into directories. -/
def ofNames : List String → Path
  | [] => ""
  | names => "/".intercalate names

/-- The steps of the directory that a path lies in. The empty path and the root lie in none. -/
def parentComponents (p : Path) : List PathComponent :=
  match p.components.getLast? with
  | none | some .root => []
  | some _ => p.components.dropLast

/-- The pieces without the ones at the end that are no steps. -/
def trimEnd (ps : List (List Char)) : List (List Char) :=
  (ps.reverse.dropWhile fun p => (componentOf? p).isNone).reverse

/-- The directory that a path lies in, as the beginning of the path. -/
def parent? (p : Path) : Option Path :=
  match pieces p.toList with
  | [] => none
  | first :: rest =>
    match trimEnd rest with
    | [] =>
      match firstComponentOf? first !rest.isEmpty with
      | none | some .root => none
      | some _ => some ""
    | steps =>
      let above := trimEnd steps.dropLast
      some <| String.ofList <|
        if first.isEmpty && above.isEmpty then ['/'] else joinPieces (first :: above)

end Path

end ClassLiterals
