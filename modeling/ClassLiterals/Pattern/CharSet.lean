import ClassLiterals.Unicode.Property
import ClassLiterals.Unicode.Folding

/-!
# Sets of characters

The sets that a pattern can name, built from ranges and properties by the operations of a bracketed
class and by closing under case.
-/

namespace ClassLiterals

/-- A set of characters. -/
inductive CharSet where
  /-- The characters from one code point to another. -/
  | range (first last : Nat)
  /-- The characters with a property. -/
  | property (p : Unicode.Property)
  | union (a b : CharSet)
  | inter (a b : CharSet)
  | compl (a : CharSet)
  /-- The characters that differ from a member in case only. -/
  | folded (a : CharSet)
  /-- The members, and the ASCII letters that differ from a member in case only. -/
  | asciiFolded (a : CharSet)
  deriving DecidableEq, Hashable, Repr

namespace CharSet

/-- The empty set. -/
def empty : CharSet := range 1 0

/-- The set of one character. -/
def single (c : Char) : CharSet := range c.toNat c.toNat

/-- The set of the characters in one of the ranges. -/
def ofRanges : List (Char × Char) → CharSet
  | [] => empty
  | [(first, last)] => range first.toNat last.toNat
  | (first, last) :: rest => union (range first.toNat last.toNat) (ofRanges rest)

/-- The set of the characters with one of the properties. -/
def ofProperties : List Unicode.Property → CharSet
  | [] => empty
  | [p] => property p
  | p :: rest => union (property p) (ofProperties rest)

/-- The members of `a` that are not in `b`. -/
def diff (a b : CharSet) : CharSet := inter a (compl b)

/-- The characters in exactly one of the sets. -/
def symmDiff (a b : CharSet) : CharSet := union (diff a b) (diff b a)

/-- Whether the code point `n` is in the set. -/
def covers : CharSet → Nat → Bool
  | range first last, n => first ≤ n && n ≤ last
  | property p, n => p.contains n
  | union a b, n => a.covers n || b.covers n
  | inter a b, n => a.covers n && b.covers n
  | compl a, n => !a.covers n
  | folded a, n => (Unicode.caseGroup n).any a.covers
  | asciiFolded a, n => (Unicode.asciiCaseGroup n).any a.covers

/-- Whether the character is in the set. -/
def contains (s : CharSet) (c : Char) : Bool := s.covers c.toNat

/-- The shortest list of ranges for the set. -/
def ranges : CharSet → Unicode.Ranges
  | range first last => if first ≤ last then [(first, last)] else []
  | property p => p.ranges
  | union a b => a.ranges.union b.ranges
  | inter a b => a.ranges.inter b.ranges
  | compl a => a.ranges.compl
  | folded a => a.ranges.fold
  | asciiFolded a => a.ranges.asciiFold

end CharSet

end ClassLiterals
