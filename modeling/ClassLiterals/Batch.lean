import ClassLiterals.Catalogue
import ClassLiterals.Rewrite

/-!
# Many classes at once

Scanning and rewriting lists of classes. A class that cannot be read is noted and does not disturb
the others; rewriting keeps its bytes.
-/

namespace ClassLiterals

/-- A class to process, under the name that reports use for it. -/
structure ClassEntry where
  name : String
  bytes : Bytes
  deriving DecidableEq, Repr

/-- What a scan of many classes found. -/
structure BatchScan where
  catalogue : Catalogue := {}
  /-- The number of classes that were read. -/
  scanned : Nat := 0
  /-- The classes that could not be read, in order. -/
  failures : List (String × FormatError) := []

namespace BatchScan

/-- The scan after another class. Failures are kept in reverse. -/
def step (f : VisibilityFilter) (s : BatchScan) (e : ClassEntry) : BatchScan :=
  match ClassFile.parse e.bytes with
  | .ok c =>
    { s with catalogue := s.catalogue.add e.name (c.candidates f), scanned := s.scanned + 1 }
  | .error err => { s with failures := (e.name, err) :: s.failures }

/-- Scans the classes in order. -/
def ofEntries (f : VisibilityFilter) (es : List ClassEntry) : BatchScan :=
  let s := es.foldl (step f) {}
  { s with failures := s.failures.reverse }

end BatchScan

/-- What became of a class in a rewrite of many. -/
structure ClassOutcome where
  name : String
  /-- The bytes of the class, as they were unless something was replaced. -/
  bytes : Bytes
  report : Except ClassError RewriteReport

namespace ClassOutcome

/-- Whether anything was replaced. -/
def isModified (o : ClassOutcome) : Bool :=
  match o.report with
  | .ok report => report.isModified
  | .error _ => false

/-- Rewrites a class. -/
def ofEntry (f : VisibilityFilter) (d : Dictionary) (e : ClassEntry) : ClassOutcome :=
  match rewriteClass f d e.bytes with
  | .ok r => ⟨e.name, r.bytes, .ok r.report⟩
  | .error err => ⟨e.name, e.bytes, .error err⟩

end ClassOutcome

/-- Rewrites the classes in order. -/
def rewriteClasses (f : VisibilityFilter) (d : Dictionary) (es : List ClassEntry) :
    List ClassOutcome :=
  es.map (ClassOutcome.ofEntry f d)

end ClassLiterals
