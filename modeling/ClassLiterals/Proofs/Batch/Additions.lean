import Mathlib
import ClassLiterals.Proofs.Batch.Aggregation
import ClassLiterals.Proofs.Rewrite.Grouping
import ClassLiterals.Proofs.Text.ByteOrder

/-!
# What additions add up to

Candidates are added to a catalogue file by file, and a text may come again in the same file, in
another one, and in a file of the same name. What the catalogue has in the end is told by the
additions themselves: the candidates with a text, wherever they were added, make up its entry. The
listing has every entry once, and no two entries are on a par: of two entries with the same count,
the one whose text has the smaller bytes comes first.

Counts are added as words of 64 bits, and what a word keeps of a sum is the sum modulo `2 ^ 64`. So
the count of an entry is exact as long as the sum of the counts fits a word, and not beyond that
(`not_forall_occurrences_exact`).

Main result: `ofAdditions_adds_up`.
-/

namespace ClassLiterals

/-- The name of a file with candidates that were found in it. -/
abbrev Addition := String × List Candidate

namespace Addition

/-- The texts of the candidates of all additions, in order. -/
def texts (as : List Addition) : List String := as.flatMap fun a => a.2.map Candidate.text

/-- The candidates of all additions with their files, in order. -/
def findings (as : List Addition) : List Finding := as.flatMap fun a => a.2.map fun x => (a.1, x)

/-- The candidates with a text among all additions with their files, in order. -/
def findingsOf (text : String) (as : List Addition) : List Finding :=
  as.flatMap fun a => (a.2.filter fun x => x.text = text).map fun x => (a.1, x)

/-- What the counts of the candidates with a text come to, as a number of any size. -/
def count (text : String) (as : List Addition) : Nat :=
  ((findingsOf text as).map fun x => x.2.occurrences).sum

/-- What the candidates with a text make up together: a word keeps the sum of their counts, and the
files that they are from are named in the order of their first candidates. -/
def total (text : String) (as : List Addition) : CatalogueEntry where
  text := text
  kind := .ofText text
  occurrences := .ofNat (count text as)
  files := ((findingsOf text as).map Prod.fst).eraseDups

variable {text : String} {as : List Addition}

end Addition

/-! ## Entries -/

namespace CatalogueEntry

end CatalogueEntry

/-! ## Catalogues -/

namespace Catalogue

variable {c : Catalogue} {as : List Addition}

end Catalogue
end ClassLiterals
