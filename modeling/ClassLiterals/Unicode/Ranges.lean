/-!
# Ranges of code points

A property of characters is given by a list of ranges, in ascending order and without overlap. A
range may go across the surrogates, which are no characters: the code points before and behind them
count as neighbours, so that each set of characters has exactly one shortest list of ranges.
-/

namespace ClassLiterals.Unicode

/-- Ranges of code points, each with its first and its last member. -/
abbrev Ranges := List (Nat × Nat)

/-- The largest code point. -/
def lastCode : Nat := 0x10FFFF

/-- The code point of the character after that of `n`. -/
def codeAfter (n : Nat) : Nat := if n = 0xD7FF then 0xE000 else n + 1

/-- The code point of the character before that of `n`. -/
def codeBefore (n : Nat) : Nat := if n = 0xE000 then 0xD7FF else n - 1

namespace Ranges

/-- Whether one of the ranges holds `n`. The ranges ascend, so the search ends at the first one
that starts above `n`. -/
def covers : Ranges → Nat → Bool
  | [], _ => false
  | (first, last) :: rest, n =>
    if n < first then false else if n ≤ last then true else covers rest n

/-! ## Operations on sets -/

/-- Joins the range from `first` to `last` with the ranges that overlap or touch it. -/
def joinFrom (first last : Nat) : Ranges → Ranges
  | [] => [(first, last)]
  | (a, b) :: rest =>
    if a ≤ codeAfter last then joinFrom first (max last b) rest
    else (first, last) :: joinFrom a b rest

/-- Joins ranges that overlap or touch. They ascend by their first members. -/
def join : Ranges → Ranges
  | [] => []
  | (first, last) :: rest => joinFrom first last rest

/-- What is in one of the two sets. -/
def union (a b : Ranges) : Ranges :=
  join (a.merge b fun x y => x.1 ≤ y.1)

/-- What is neither below `start` nor in one of the ranges. -/
def complFrom (start : Nat) : Ranges → Ranges
  | [] => if start ≤ lastCode then [(start, lastCode)] else []
  | (first, last) :: rest =>
    if start < first then (start, codeBefore first) :: complFrom (codeAfter last) rest
    else complFrom (codeAfter last) rest

/-- What is in none of the ranges. -/
def compl (a : Ranges) : Ranges := complFrom 0 a

/-- What is in `a` and not in `b`. -/
def diff (a b : Ranges) : Ranges := compl (union (compl a) b)

/-- What is in both sets. -/
def inter (a b : Ranges) : Ranges := diff a (compl b)

/-- What is in one of the `bases` or `added` to them, and not `removed`. -/
def adjust (bases : List Ranges) (added removed : Ranges) : Ranges :=
  diff (bases.foldl union added) removed

end Ranges

/-- A set of code points under the names by which a pattern may ask for it. The names are in loose
form: in lower case, without blanks, underscores and hyphens. -/
structure NamedRanges where
  names : List String
  ranges : Ranges

/-- The place of the set with a name. -/
def placeOf? (table : Array NamedRanges) (name : String) : Option Nat :=
  table.findIdx? (·.names.contains name)

/-- The set at a place. -/
def rangesAt (table : Array NamedRanges) (place : Nat) : Ranges :=
  match table[place]? with
  | some entry => entry.ranges
  | none => []

end ClassLiterals.Unicode
