import ClassLiterals.Class.Operands
import ClassLiterals.Class.Basic
import ClassLiterals.Visibility

/-!
# Candidates

A candidate is a text entry of a class whose text is visible and which some method loads as a
string. Replacing the text of a candidate changes what the program shows; but if the class uses the
entry as a name, too, the replacement would change more than that. Such a candidate is *shared*.
-/

namespace ClassLiterals

/-- A text entry that a method loads as a string. -/
structure Candidate where
  text : String
  /-- The text entry. -/
  textIndex : UInt16
  /-- The string constant that refers to the entry, when a load went through one. -/
  stringIndex : Option UInt16
  /-- The number of loads. -/
  occurrences : Nat
  /-- The name and descriptor of every method with a load, in the order of their first loads. -/
  methods : List String
  /-- Whether the class uses the entry for more than string constants. -/
  shared : Bool
  deriving DecidableEq, Repr

/-- What the user should hear of while a class is processed. -/
inductive Warning where
  /-- The code of a method cannot be read, so its strings are not found. -/
  | skippedMethod (method : String) (reason : FormatError ⊕ ScanError)
  /-- The operands of an attribute cannot be read, so the entries they name may look unshared. -/
  | unreadableOperands (name : Option String) (reason : FormatError)
  /-- A replacement does not fit into a text entry. -/
  | replacementTooLong (textIndex : UInt16) (size : Nat) (text : String)
  deriving DecidableEq, Repr

open Text in
/-- The message for a warning. -/
def Warning.message : Warning → String
  | skippedMethod method reason =>
    "Skipping method " ++ method ++ ": " ++ reason.elim FormatError.message ScanError.message
  | unreadableOperands name reason =>
    "Can't read the operands of attribute " ++ quoted (name.getD "<unknown>") ++ ": " ++
      reason.message
  | replacementTooLong textIndex size text =>
    "Translation of #" ++ decimal textIndex.toNat ++ " is " ++ decimal size ++
      " bytes encoded, keeping " ++ quoted text

namespace ClassFile

/-! ## Structural uses -/

/-- The indices that constants other than string constants refer to. -/
def constantReferences (c : ClassFile) : List UInt16 :=
  c.pool.entries.flatMap fun (_, constant) =>
    match constant with
    | .string _ => []
    | other => other.references

/-- The fields and the methods. -/
def members (c : ClassFile) : List Member := c.fields ++ c.methods

/-- The indices of the names and descriptors of the members. -/
def memberReferences (c : ClassFile) : List UInt16 :=
  c.members.flatMap fun m => [m.nameIndex, m.descriptorIndex]

/-- The attributes of the class, then those of its fields, then those of its methods. -/
def allAttributes (c : ClassFile) : List Attribute :=
  c.attributes ++ c.members.flatMap Member.attributes

/-- The indices that an attribute is known to use: its operands, or its name alone when the operands
cannot be read. -/
def knownOperands (pool : Pool) (a : Attribute) : List UInt16 :=
  match a.operands pool with
  | .ok operands => operands
  | .error _ => [a.nameIndex]

/-- The indices that the class uses for something else than a string constant. -/
def structuralIndices (c : ClassFile) : List UInt16 :=
  c.constantReferences ++ c.memberReferences ++ c.allAttributes.flatMap (knownOperands c.pool)

/-- The warnings about attributes whose operands cannot be read. -/
def attributeWarnings (c : ClassFile) : List Warning :=
  c.allAttributes.filterMap fun a =>
    match a.operands c.pool with
    | .ok _ => none
    | .error e => some (.unreadableOperands (c.pool.text? a.nameIndex) e)

/-! ## Loads -/

/-- The name and descriptor of a method as one text. -/
def describeMethod (pool : Pool) (m : Member) : String :=
  (m.name pool).toOption.getD "<unknown>" ++ (m.descriptor pool).toOption.getD ""

/-- The load sites of a method; a method without code has none. -/
def methodLoadSites (pool : Pool) (m : Member) : Except (FormatError ⊕ ScanError) (List LoadSite) :=
  match m.code pool with
  | .error e => .error (.inl e)
  | .ok none => .ok []
  | .ok (some code) =>
    match code.loadSites with
    | .error e => .error (.inr e)
    | .ok sites => .ok sites

/-- A load of a text entry. -/
structure Load where
  textIndex : UInt16
  text : String
  /-- The string constant that the load went through. -/
  stringIndex : Option UInt16
  method : String
  deriving DecidableEq, Repr

/-- The load at a site, if it is one of a text entry, either through a string constant or
directly. -/
def loadAt? (pool : Pool) (method : String) (site : LoadSite) : Option Load :=
  if site.kind.mayLoadString then
    let (textIndex, stringIndex) := match pool.get? site.index with
      | some (.string textIndex) => (textIndex, some site.index)
      | _ => (site.index, none)
    (pool.text? textIndex).map fun text => { textIndex, text, stringIndex, method }
  else none

/-- The loads of text entries by a method. -/
def methodLoads (pool : Pool) (m : Member) : List Load :=
  match methodLoadSites pool m with
  | .ok sites => sites.filterMap (loadAt? pool (describeMethod pool m))
  | .error _ => []

/-- All loads of text entries, in the order of the methods. -/
def loads (c : ClassFile) : List Load := c.methods.flatMap (methodLoads c.pool)

/-- The warnings about methods whose code cannot be read. -/
def methodWarnings (c : ClassFile) : List Warning :=
  c.methods.filterMap fun m =>
    match methodLoadSites c.pool m with
    | .ok _ => none
    | .error e => some (.skippedMethod (describeMethod c.pool m) e)

end ClassFile

namespace Candidate

/-- The candidate after another load of its entry. -/
def addLoad (x : Candidate) (l : ClassFile.Load) : Candidate :=
  { x with
    occurrences := x.occurrences + 1
    stringIndex := x.stringIndex <|> l.stringIndex
    methods := if x.methods.contains l.method then x.methods else x.methods ++ [l.method] }

/-- The candidate after the first load of its entry. -/
def ofLoad (structural : List UInt16) (l : ClassFile.Load) : Candidate where
  text := l.text
  textIndex := l.textIndex
  stringIndex := l.stringIndex
  occurrences := 1
  methods := [l.method]
  shared := structural.contains l.textIndex

/-- The candidates after another load: the candidate of its entry takes it up, or a new candidate
joins at the end. -/
def record (structural : List UInt16) : List Candidate → ClassFile.Load → List Candidate
  | [], l => [ofLoad structural l]
  | x :: xs, l =>
    if x.textIndex = l.textIndex then x.addLoad l :: xs else x :: record structural xs l

end Candidate

namespace ClassFile

/-- The candidates of a class, in the order of their first loads. -/
def candidates (f : VisibilityFilter) (c : ClassFile) : List Candidate :=
  let structural := c.structuralIndices
  (c.loads.filter fun l => f.isVisible l.text).foldl (Candidate.record structural) []

/-- The warnings that finding the candidates gives rise to. -/
def warnings (c : ClassFile) : List Warning := c.attributeWarnings ++ c.methodWarnings

end ClassFile

end ClassLiterals
