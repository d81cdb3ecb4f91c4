import ClassLiterals.Candidate
import ClassLiterals.TextKind
import Std.Data.HashMap

/-!
# Catalogues of texts

A catalogue collects the candidates of many classes by their texts: how often each text is loaded,
and in which files. It is listed from the most frequent text to the rarest one, and texts of equal
frequency by their characters, so the listing depends on what was collected and on nothing else.

The counts are words of 64 bits, and a sum that is too large for a word loses what exceeds it.
-/

namespace ClassLiterals

/-- A text of a catalogue. -/
structure CatalogueEntry where
  text : String
  kind : TextKind
  occurrences : UInt64
  /-- The files with the text, in the order in which they were collected. -/
  files : List String
  deriving DecidableEq, Repr

namespace CatalogueEntry

/-- The entry of a text that has not been found yet. -/
def new (text : String) : CatalogueEntry where
  text := text
  kind := .ofText text
  occurrences := 0
  files := []

/-- The entry after `occurrences` more loads in a file. -/
def add (e : CatalogueEntry) (file : String) (occurrences : Nat) : CatalogueEntry :=
  { e with
    occurrences := e.occurrences + .ofNat occurrences
    files := if e.files.contains file then e.files else e.files ++ [file] }

/-- Whether an entry is listed before another one, or may be. -/
def precedes (a b : CatalogueEntry) : Bool :=
  b.occurrences < a.occurrences || (a.occurrences == b.occurrences && a.text ≤ b.text)

end CatalogueEntry

/-- Candidates of many classes, collected by text. -/
structure Catalogue where
  byText : Std.HashMap String CatalogueEntry := ∅

namespace Catalogue

/-- Adds a candidate that was found in a file. -/
def addCandidate (file : String) (c : Catalogue) (x : Candidate) : Catalogue :=
  let entry := c.byText.getD x.text (.new x.text)
  ⟨c.byText.insert x.text (entry.add file x.occurrences)⟩

/-- Adds the candidates that were found in a file. -/
def add (c : Catalogue) (file : String) (xs : List Candidate) : Catalogue :=
  xs.foldl (addCandidate file) c

/-- The entry of a text. -/
def get? (c : Catalogue) (text : String) : Option CatalogueEntry := c.byText[text]?

/-- The number of texts. -/
def size (c : Catalogue) : Nat := c.byText.size

/-- Whether there is no text. -/
def isEmpty (c : Catalogue) : Bool := c.byText.isEmpty

/-- All entries, the most frequent text first. -/
def sorted (c : Catalogue) : List CatalogueEntry :=
  c.byText.values.mergeSort CatalogueEntry.precedes

/-- The texts that are worth translating, in the order of the listing. -/
def translatableTexts (f : VisibilityFilter) (c : Catalogue) : List String :=
  (c.sorted.filter fun e => f.isTranslatable e.text).map (·.text)

end Catalogue

end ClassLiterals
