import ClassLiterals.Pattern.Basic

/-!
# Shapes of patterns

An automaton for a pattern has its states where the pattern, in a normal form, has its parts. The
normal form joins neighbouring characters into words, nested sequences and nested choices into one,
choices between characters or sets into one set, and puts what all choices start with in front of
them. It keeps how often parts are repeated, as every copy has states of its own.

A shape describes the same texts as its pattern does. It only serves to tell how large the automaton
is, so matching does not look at it.
-/

namespace ClassLiterals

/-- A pattern in normal form. In `seq p q` the first part is no sequence itself, and in `alt p q`
the first choice is no choice. -/
inductive Shape where
  /-- The empty text. -/
  | empty
  /-- The given characters, of which there is at least one. -/
  | word (text : List Char)
  /-- One character from the ranges, which hold none or more than one. A set of bytes differs from
  the same set of characters. -/
  | chars (ranges : Unicode.Ranges) (bytes : Bool)
  /-- The empty text, at a place where a condition holds. -/
  | boundary (b : Boundary)
  /-- Repetition; `eager` tells whether it prefers more rounds. -/
  | times (least : Nat) (most : Option Nat) (eager : Bool) (p : Shape)
  /-- A group whose text is remembered, with its number. -/
  | group (number : Nat) (p : Shape)
  /-- One part after the other. -/
  | seq (p q : Shape)
  /-- One of two choices. -/
  | alt (p q : Shape)
  deriving DecidableEq, Repr

namespace Shape

/-! ## Lengths and ends -/

/-- The least number of characters, if a text can match at all. -/
def leastLength? : Shape → Option Nat
  | empty => some 0
  | word text => some text.length
  | chars ranges _ => if ranges.isEmpty then none else some 1
  | boundary _ => some 0
  | times least _ _ p => p.leastLength?.map (· * least)
  | group _ p => p.leastLength?
  | seq p q => return (← p.leastLength?) + (← q.leastLength?)
  | alt p q => return min (← p.leastLength?) (← q.leastLength?)

/-- The greatest number of characters, if there is one. -/
def mostLength? : Shape → Option Nat
  | empty => some 0
  | word text => some text.length
  | chars ranges _ => if ranges.isEmpty then none else some 1
  | boundary _ => some 0
  | times _ most _ p => return (← p.mostLength?) * (← most)
  | group _ p => p.mostLength?
  | seq p q => return (← p.mostLength?) + (← q.mostLength?)
  | alt p q => return max (← p.mostLength?) (← q.mostLength?)

/-- Whether every match starts with the condition. -/
def startsAt (b : Boundary) : Shape → Bool
  | boundary c => b == c
  | times least _ _ p => 0 < least && p.startsAt b
  | group _ p => p.startsAt b
  | seq p q => p.startsAt b || (p.mostLength? == some 0 && q.startsAt b)
  | alt p q => p.startsAt b && q.startsAt b
  | _ => false

/-- Whether every match ends with the condition. -/
def endsAt (b : Boundary) : Shape → Bool
  | boundary c => b == c
  | times least _ _ p => 0 < least && p.endsAt b
  | group _ p => p.endsAt b
  | seq p q => q.endsAt b || (q.mostLength? == some 0 && p.endsAt b)
  | alt p q => p.endsAt b && q.endsAt b
  | _ => false

/-! ## Sets and repetitions -/

/-- The shape of a set of characters; of a single character, the word that it makes. -/
def ofRanges (ranges : Unicode.Ranges) (bytes : Bool) : Shape :=
  match ranges with
  | [] => chars [] true
  | [(first, last)] => if first = last then word [Char.ofNat first] else chars ranges bytes
  | _ => chars ranges bytes

/-- A shape repeated. Rounds of the empty text count once at most. -/
def repeated (least : Nat) (most : Option Nat) (eager : Bool) (p : Shape) : Shape :=
  let (least, most) :=
    if p.mostLength? = some 0 then (min least 1, some (min (most.getD 1) 1)) else (least, most)
  if least = 0 ∧ most = some 0 then empty
  else if least = 1 ∧ most = some 1 then p
  else times least most eager p

/-! ## Sequences -/

/-- The parts of a sequence. -/
def parts : Shape → List Shape
  | seq p q => p :: q.parts
  | p => [p]

/-- The sequence of given parts. -/
def ofParts : List Shape → Shape
  | [] => empty
  | [p] => p
  | p :: ps => seq p (ofParts ps)

/-- Joins neighbouring words. -/
def joinWords : List Shape → List Shape
  | word a :: rest =>
    match joinWords rest with
    | word b :: rest => word (a ++ b) :: rest
    | rest => word a :: rest
  | p :: rest => p :: joinWords rest
  | [] => []

/-- The shapes in sequence. -/
def concat (ps : List Shape) : Shape :=
  ofParts (joinWords ((ps.flatMap parts).filter (· != empty)))

/-! ## Choices -/

/-- The choices of a shape. -/
def choices : Shape → List Shape
  | alt p q => p :: q.choices
  | p => [p]

/-- The choice between given shapes. -/
def ofChoices : List Shape → Shape
  | [] => chars [] true
  | [p] => p
  | p :: ps => alt p (ofChoices ps)

/-- The code point of a single character. -/
def singleCode? : Shape → Option Nat
  | word [c] => some c.toNat
  | _ => none

/-- The ranges of a set. -/
def setRanges? : Shape → Option Unicode.Ranges
  | chars ranges _ => some ranges
  | _ => none

/-- The set that choices between characters, or between sets, amount to. -/
def asSet? (ps : List Shape) : Option Shape :=
  let ofCodes := fun codes => ofRanges (.ofCodes codes) false
  let ofSets := fun sets => ofRanges (sets.foldl Unicode.Ranges.union []) false
  (ps.mapM singleCode?).map ofCodes <|> (ps.mapM setRanges?).map ofSets

/-- The choice between shapes, as a set if it amounts to one. -/
def oneOfApart (ps : List Shape) : Shape :=
  (asSet? ps).getD (ofChoices ps)

/-- What both lists start with. -/
def commonPrefix : List Shape → List Shape → List Shape
  | p :: ps, q :: qs => if p = q then p :: commonPrefix ps qs else []
  | _, _ => []

/-- What all sequences among the choices start with; nothing if a choice is no sequence. -/
def sharedParts (ps : List Shape) : List Shape :=
  match ps.map parts with
  | first :: rest =>
    if (first :: rest).all (1 < ·.length) then rest.foldl commonPrefix first else []
  | [] => []

/-- The choice between shapes. What all of them start with stands in front of the choice. -/
def oneOf (ps : List Shape) : Shape :=
  match ps.flatMap choices with
  | [p] => p
  | ps =>
    match asSet? ps, sharedParts ps with
    | some p, _ => p
    | none, [] => ofChoices ps
    | none, shared =>
      let rest := ps.map fun p => concat (p.parts.drop shared.length)
      concat (shared ++ [oneOfApart (rest.flatMap choices)])

end Shape

end ClassLiterals
