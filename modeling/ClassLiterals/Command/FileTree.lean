import ClassLiterals.Command.Run

/-!
# A model of files

Files and directories around a working directory, with the rules by which paths reach them: every
step of a path starts from a directory that exists, so a path that ends in a slash or in a step to
the same directory names a directory. Names and paths have a greatest length.

Nothing is known of what lies outside the working directory, except that the directories above it
and the root exist, and that there is the empty file `/dev/null`.
-/

namespace ClassLiterals.Command

/-- A file, or a directory with its entries. -/
inductive Node where
  | file (bytes : Bytes)
  | directory (entries : List (String × Node))

namespace Node

/-- The entries of a directory; a file has none. -/
def entries : Node → List (String × Node)
  | file _ => []
  | directory entries => entries

/-- The node with another one below it, which the names lead to. What is in the way is replaced, and
directories that are missing are made. -/
def put (new : Node) : (names : List String) → Node → Node
  | [], _ => new
  | name :: names, n =>
    let below := put new names ((n.entries.lookup name).getD (.directory []))
    .directory ((name, below) :: n.entries.filter (·.1 != name))

mutual

/-- The files in a node, with the names that lead to them. -/
def files : Node → List (List String × Bytes)
  | .file bytes => [([], bytes)]
  | .directory entries => filesOf entries

/-- The files in entries, with the names that lead to them. -/
def filesOf : List (String × Node) → List (List String × Bytes)
  | [] => []
  | (name, n) :: rest => n.files.map (fun (names, bytes) => (name :: names, bytes)) ++ filesOf rest

end

end Node

/-- A directory that is known to exist. -/
inductive KnownDirectory where
  /-- The working directory for `levels = 0`, otherwise a directory above it. -/
  | above (levels : Nat)
  | root
  deriving DecidableEq, Repr

/-- The files and directories in the directories that are known to exist. -/
structure FileTree where
  known : List (KnownDirectory × Node) :=
    [(.root, .directory [("dev", .directory [("null", .file [])])])]

/-- A place in the file system, given by names from a known directory downwards. -/
structure Location where
  start : KnownDirectory
  /-- The names with what is there, the last one first. -/
  steps : List (String × Option Node)

namespace Location

/-- The working directory. -/
def here : Location := ⟨.above 0, []⟩

/-- The directory that a place lies in. -/
def parent : Location → Location
  | ⟨start, _ :: steps⟩ => ⟨start, steps⟩
  | ⟨.above levels, []⟩ => ⟨.above (levels + 1), []⟩
  | ⟨.root, []⟩ => ⟨.root, []⟩

/-- The names that lead to a place. -/
def names (l : Location) : List String := (l.steps.map (·.1)).reverse

end Location

/-- Why a path leads nowhere. -/
inductive PathError where
  /-- A directory on the way does not exist. -/
  | missing
  /-- The path cannot be followed for another reason. -/
  | blocked
  deriving DecidableEq, Repr

namespace FileTree

/-- The known directory with all that is in it. -/
def directory (t : FileTree) (start : KnownDirectory) : Node :=
  (t.known.lookup start).getD (.directory [])

/-- The file or directory at a place. -/
def node? (t : FileTree) (l : Location) : Option Node :=
  match l.steps with
  | [] => some (t.directory l.start)
  | (_, n) :: _ => n

/-- The tree with a node at the place that the names lead to. -/
def put (t : FileTree) (start : KnownDirectory) (names : List String) (n : Node) : FileTree :=
  { known := (start, n.put names (t.directory start)) :: t.known.filter (·.1 != start) }

/-- The greatest length of a name, in bytes. -/
def maxName : Nat := 255

/-- The greatest length of a path, in bytes. -/
def maxPath : Nat := 4095

/-- Whether the text can be used as a path at all. -/
def isPath (p : Path) : Bool := p.utf8ByteSize ≤ maxPath && !p.toList.contains '\x00'

/-- Follows the pieces of a path from a place. -/
def follow (t : FileTree) : Location → List (List Char) → Except PathError Location
  | l, [] => .ok l
  | l, piece :: rest =>
    match t.node? l with
    | none => .error .missing
    | some (.file _) => .error .blocked
    | some (.directory entries) =>
      match Path.componentOf? piece with
      | some (.normal name) =>
        if maxName < name.utf8ByteSize then .error .blocked
        else t.follow ⟨l.start, (name, entries.lookup name) :: l.steps⟩ rest
      | some .parent => t.follow l.parent rest
      | _ => t.follow l rest

/-- The place that a path names. -/
def locate (t : FileTree) (p : Path) : Except PathError Location :=
  if !isPath p then .error .blocked
  else if p.isEmpty then .error .missing
  else if p.isAbsolute then t.follow ⟨.root, []⟩ (Path.pieces p.toList)
  else t.follow .here (Path.pieces p.toList)

/-- The content of the file that a path names. -/
def read (t : FileTree) (p : Path) : Option Bytes :=
  match t.locate p with
  | .ok l =>
    match t.node? l with
    | some (.file bytes) => some bytes
    | _ => none
  | .error _ => none

/-- Makes one directory. -/
def makeOne (t : FileTree) (p : Path) : Except PathError FileTree := do
  if !isPath p then throw .blocked
  let l ← t.locate (String.ofList (dropSlashes p.toList))
  if (t.node? l).isSome then throw .blocked
  return t.put l.start l.names (.directory [])
where
  dropSlashes (cs : List Char) : List Char :=
    match cs.reverse.dropWhile (· = '/') with
    | [] => cs.take 1
    | kept => kept.reverse

/-- Whether a path names an existing directory. -/
def hasDirectory (t : FileTree) (p : Path) : Bool :=
  match t.locate p with
  | .ok l =>
    match t.node? l with
    | some (.directory _) => true
    | _ => false
  | .error _ => false

/-- Makes a directory and the ones above it that are missing. -/
def makeDirectory (t : FileTree) : (depth : Nat) → Path → Option FileTree
  | 0, _ => none
  | depth + 1, p =>
    if p.isEmpty then some t
    else
      match t.makeOne p with
      | .ok t => some t
      | .error .blocked => if t.hasDirectory p then some t else none
      | .error .missing => do
        let above ← t.makeDirectory depth (← p.parent?)
        match above.makeOne p with
        | .ok t => some t
        | .error _ => if above.hasDirectory p then some above else none

/-- Writes the file that a path names. -/
def write (t : FileTree) (p : Path) (bytes : Bytes) : Option FileTree :=
  match t.locate p with
  | .ok l =>
    match t.node? l with
    | some (.directory _) => none
    | _ => some (t.put l.start l.names (.file bytes))
  | .error _ => none

end FileTree

/-- The state of a run on modelled files: the files, and the lines printed so far in reverse. -/
structure World where
  tree : FileTree := {}
  printed : List String := []

namespace World

/-- Modelled files as a file system. -/
def fileSystem : FileSystem (StateM World) where
  read p := return (← get).tree.read p
  makeDirectory p := do
    let w ← get
    match w.tree.makeDirectory (p.length + 1) p with
    | some tree =>
      set { w with tree }
      return true
    | none => return false
  write p bytes := do
    let w ← get
    match w.tree.write p bytes with
    | some tree =>
      set { w with tree }
      return true
    | none => return false
  print line := modify fun w => { w with printed := line :: w.printed }

/-- The world with the given files, under paths from the working directory. -/
def ofFiles (files : List (Path × Bytes)) : World :=
  { tree := files.foldl place {} }
where
  place (t : FileTree) : Path × Bytes → FileTree
    | (p, bytes) => t.put (.above 0) (p.components.filterMap PathComponent.name?) (.file bytes)

/-- The files below the working directory, under their paths. -/
def files (w : World) : List (Path × Bytes) :=
  (w.tree.directory (.above 0)).files.map fun (names, bytes) => (Path.ofNames names, bytes)

end World

end ClassLiterals.Command
