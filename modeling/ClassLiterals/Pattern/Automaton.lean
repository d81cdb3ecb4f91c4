import ClassLiterals.Pattern.Shape
import ClassLiterals.Unicode.ByteSequence

/-!
# The space of an automaton

Patterns are searched for with two automata over bytes, one that reads a text forwards and one that
reads it backwards. Both must fit into a fixed space, or the patterns are refused together. This
module only tells how much space an automaton takes.

A state either tests for a byte range, tests for one of several byte ranges, branches, or does
nothing; it takes a fixed space, plus some for each range it tests for and for each of its branches.
A sequence of parts links the states of its parts, a repetition copies the states of its part, and a
choice between words shares what they start with.

A set of characters becomes a small automaton of its own, in which states are shared as far as a
table of fixed size remembers them. The table is indexed by a hash of what a state does, the numbers
of the states it leads to included, so the space for a set depends on how many states stand before
it.
-/

namespace ClassLiterals

/-- The order in which an automaton reads the bytes of a text. -/
inductive Direction where
  | forward
  | backward
  deriving DecidableEq, Repr

/-- The states of an automaton that is being built, and the branches and byte ranges that take space
besides them. -/
structure Tally where
  states : Nat := 0
  branches : Nat := 0
  ranges : Nat := 0
  deriving DecidableEq, Repr

namespace Tally

/-- The space in bytes. -/
def space (t : Tally) : Nat := 32 * t.states + 4 * t.branches + 8 * t.ranges

/-- The space that an automaton may take. -/
def maxSpace : Nat := 10 <<< 20

/-- The tally, if the space is not exceeded. -/
def checked? (t : Tally) : Option Tally :=
  if t.space ≤ maxSpace then some t else none

/-- Adds states, and branches for them. -/
def add? (t : Tally) (states branches : Nat) : Option Tally :=
  checked? { t with states := t.states + states, branches := t.branches + branches }

/-- Adds a state that tests for several byte ranges. -/
def addRanges (t : Tally) (ranges : Nat) : Tally :=
  { t with states := t.states + 1, ranges := t.ranges + ranges }

/-- Applies a step a number of times, as long as the space suffices. -/
def times? (step : Tally → Option Tally) : Nat → Tally → Option Tally
  | 0, t => some t
  | n + 1, t =>
    match step t with
    | some t => times? step n t
    | none => none

end Tally

/-! ## Sets of characters -/

/-- A byte range that a state tests for, with the number of the state it leads to. -/
structure Transition where
  range : Unicode.ByteRange
  target : Nat
  deriving DecidableEq, Repr

/-- The hash of a list of numbers: each one is mixed in with the bits so far, and the bits are
spread by a multiplication. -/
def mixedHash (numbers : List Nat) : UInt64 :=
  numbers.foldl (fun h n => (h ^^^ n.toUInt64) * 1099511628211) 14695981039346656037

/-- A table of fixed size that remembers values by their keys. Each key has one place in it, which
it may have to leave to another one. -/
structure Memory (α : Type) where
  slots : Array (Option (α × Nat))

namespace Memory

/-- A table with nothing in it. -/
def ofSize (α : Type) (size : Nat) : Memory α := ⟨Array.replicate size none⟩

/-- The place of a key with a hash. -/
def place {α : Type} (m : Memory α) (hash : UInt64) : Nat := hash.toNat % m.slots.size

/-- What is remembered for a key. -/
def find? {α : Type} [DecidableEq α] (m : Memory α) (hash : UInt64) (key : α) : Option Nat :=
  match m.slots[m.place hash]? with
  | some (some (known, value)) => if known = key then some value else none
  | _ => none

/-- Remembers a value for a key. -/
def insert {α : Type} (m : Memory α) (hash : UInt64) (key : α) (value : Nat) : Memory α :=
  { m with slots := m.slots.setIfInBounds (m.place hash) (some (key, value)) }

end Memory

/-! ### Forwards -/

/-- A state to come, whose last byte range does not yet lead anywhere. -/
structure OpenState where
  /-- The other byte ranges, the latest one first. -/
  done : List Transition := []
  last : Option Unicode.ByteRange := none

/-- The byte ranges of a state to come, once the last one leads to the state `target`. -/
def OpenState.close (s : OpenState) (target : Nat) : List Transition :=
  match s.last with
  | some range => ⟨range, target⟩ :: s.done
  | none => s.done

/-- An automaton for a set, to which the byte sequences of the set are added in ascending order. -/
structure SetBuilder where
  tally : Tally
  known : Memory (List Transition)

namespace SetBuilder

/-- The state that tests for the given byte ranges: a known one or a new one. -/
def state (b : SetBuilder) (transitions : List Transition) : Nat × SetBuilder :=
  let inOrder := transitions.reverse
  let hash := mixedHash (inOrder.flatMap fun t => [t.range.1, t.range.2, t.target])
  match b.known.find? hash inOrder with
  | some number => (number, b)
  | none =>
    let number := b.tally.states
    (number,
      { tally := b.tally.addRanges inOrder.length
        known := b.known.insert hash inOrder number })

/-- Closes states to come, each of which leads to the next one and the last one to `target`. The
number is that of the first one. -/
def close (b : SetBuilder) (target : Nat) : List OpenState → Nat × SetBuilder
  | [] => (target, b)
  | s :: rest =>
    let (next, b) := b.close target rest
    b.state (s.close next)

/-- The number of byte ranges at the start of a sequence that the states to come already test
for. -/
def sharedLength : List OpenState → List Unicode.ByteRange → Nat
  | s :: states, range :: rest =>
    if s.last = some range then sharedLength states rest + 1 else 0
  | _, _ => 0

/-- The states to come for a sequence of byte ranges. -/
def openStates (sequence : List Unicode.ByteRange) : List OpenState :=
  sequence.map fun range => { last := some range }

/-- Adds a byte sequence that leads to `target`. `states` are the states to come, from the first one
on. -/
def addSequence (b : SetBuilder) (target : Nat) (states : List OpenState)
    (sequence : List Unicode.ByteRange) : List OpenState × SetBuilder :=
  let shared := sharedLength states sequence
  match states.drop shared with
  | [] => (states, b)
  | s :: rest =>
    let (next, b) := b.close target rest
    let s := { done := s.close next, last := sequence[shared]? }
    (states.take shared ++ s :: openStates (sequence.drop (shared + 1)), b)

end SetBuilder

/-- The places of the table for states that read forwards. -/
def forwardMemory : Nat := 10000

/-- The tally with the states for a set that are read forwards. -/
def Tally.addSet (t : Tally) (sequences : List (List Unicode.ByteRange)) : Tally :=
  let target := t.states
  let start : List OpenState × SetBuilder :=
    ([{}], ⟨{ t with states := t.states + 1 }, .ofSize _ forwardMemory⟩)
  let (states, b) := sequences.foldl (fun (states, b) s => b.addSequence target states s) start
  (b.close target states).2.tally

/-! ### Backwards -/

/-- The places of the table for states that read backwards. -/
def backwardMemory : Nat := 1000

/-- Adds the states for a byte sequence that is read from its end. Each tests for one byte range and
leads to the one before it; the first one leads to `target`. -/
def addBackward (target : Nat) (tally : Tally) (known : Memory (Unicode.ByteRange × Nat)) :
    List Unicode.ByteRange → Tally × Memory (Unicode.ByteRange × Nat)
  | [] => (tally, known)
  | range :: rest =>
    let hash := mixedHash [target, range.1, range.2]
    match known.find? hash (range, target) with
    | some number => addBackward number tally known rest
    | none =>
      let number := tally.states
      addBackward number { tally with states := number + 1 }
        (known.insert hash (range, target) number) rest

/-- The tally with the states for a set that are read backwards. -/
def Tally.addSetBackward (t : Tally) (sequences : List (List Unicode.ByteRange)) : Tally :=
  let target := t.states + 1
  let start := ({ t with states := t.states + 2 }, Memory.ofSize _ backwardMemory)
  let (t, _) := sequences.foldl (fun (t, known) s => addBackward target t known s) start
  { t with branches := t.branches + sequences.length }

/-- Whether all members are ASCII characters. -/
def allAscii (ranges : Unicode.Ranges) : Bool := ranges.all (·.2 < 0x80)

/-- The tally with the states for a set of characters. -/
def Tally.addChars? (t : Tally) (d : Direction) (ranges : Unicode.Ranges) : Option Tally :=
  if allAscii ranges then
    Tally.checked? ({ t with states := t.states + 1 }.addRanges ranges.length)
  else
    let sequences := ranges.flatMap fun (first, last) => Unicode.byteSequences first last
    Tally.checked? <| match d with
      | .forward => t.addSet sequences
      | .backward => t.addSetBackward sequences

/-! ## Words -/

/-- The bytes of a word, in the order in which they are read. -/
def wordBytes (d : Direction) (text : List Char) : List UInt8 :=
  let bytes := text.flatMap String.utf8EncodeChar
  match d with
  | .forward => bytes
  | .backward => bytes.reverse

/-- The words of a choice between words. -/
def words? : Shape → Option (List (List Char))
  | .word text => some [text]
  | .alt (.word text) q => (words? q).map (text :: ·)
  | _ => none

/-- Puts words with the same first byte together, without that byte. -/
def groupByFirst (words : List (List UInt8)) : List (UInt8 × List (List UInt8)) :=
  let groups := words.foldl (fun groups w => match w with
    | [] => groups
    | byte :: rest => insert byte rest groups) []
  groups.map fun (byte, reversed) => (byte, reversed.reverse)
where
  insert (byte : UInt8) (rest : List UInt8) :
      List (UInt8 × List (List UInt8)) → List (UInt8 × List (List UInt8))
    | [] => [(byte, [rest])]
    | (b, ws) :: groups =>
      if b = byte then (b, rest :: ws) :: groups else (b, ws) :: insert byte rest groups

/-- Cuts a list of words where a word ends: an empty word closes the piece before it. At the start,
several empty words count as one. -/
def cutAtEnds (words : List (List UInt8)) : List (List (List UInt8)) :=
  match words with
  | [] :: rest => [] :: go [] (rest.dropWhile (·.isEmpty))
  | words => go [] words
where
  go (piece : List (List UInt8)) : List (List UInt8) → List (List (List UInt8))
    | [] => [piece.reverse]
    | [] :: rest => piece.reverse :: go [] rest
    | w :: rest => go (w :: piece) rest

/-- The tally with the states of a tree of words, whose branches are the bytes that words which
start alike go on with. A word that ends at a place with branches takes precedence over the words
after it, so those do not share the branches of the ones before. -/
def Tally.addTree : (fuel : Nat) → Tally → List (List UInt8) → Tally
  | 0, t, _ => t
  | fuel + 1, t, words =>
    if words.all (·.isEmpty) then t
    else
      let pieces := (cutAtEnds words).map groupByFirst
      let t := pieces.foldl (fun t groups => match groups with
        | [] => t
        | [_] => { t with states := t.states + 1, branches := t.branches + 1 }
        | _ => { t.addRanges groups.length with branches := t.branches + 1 }) t
      let t := { t with states := t.states + 1, branches := t.branches + (pieces.length - 1) }
      pieces.foldl (fun t groups => groups.foldl (fun t (_, ws) => t.addTree fuel ws) t) t

/-- The tally with the states for a choice between words. -/
def Tally.addWords? (t : Tally) (d : Direction) (words : List (List Char)) : Option Tally :=
  let words := words.map (wordBytes d)
  let longest := words.foldl (fun n w => max n w.length) 0
  Tally.checked? ({ t with states := t.states + 1 }.addTree (longest + 1) words)

/-! ## Patterns -/

mutual

/-- The tally with the states for a pattern. A branch that leads on from the end of the pattern
counts for it. -/
def Tally.addShape? (d : Direction) : Shape → Tally → Option Tally
  | .empty, t => t.add? 1 0
  | .word text, t => t.add? (wordBytes d text).length 0
  | .chars ranges _, t => t.addChars? d ranges
  | .boundary _, t => t.add? 1 0
  | .group _ p, t => t.addShape? d p
  | .times least most _ p, t => do
    match least, most with
    | 0, some 1 => (← (← t.add? 1 2).addShape? d p).add? 1 0
    | 0, none =>
      if p.leastLength?.any (0 < ·) then (← t.add? 1 2).addShape? d p
      else (← t.addShape? d p).add? 3 4
    | _, none => (← t.times? (·.addShape? d p) least).add? 1 2
    | _, some most =>
      let t ← if least = 0 then t.add? 1 0 else t.times? (·.addShape? d p) least
      if least = most then return t
      (← t.add? 1 0).times? (fun t => do (← t.add? 1 2).addShape? d p) (most - least)
  | .seq p q, t =>
    match d with
    | .forward => do (← t.addShape? d p).addShape? d q
    | .backward => do (← t.addShape? d q).addShape? d p
  | .alt p q, t =>
    match words? (.alt p q) with
    | some words => t.addWords? d words
    | none => do (← t.addShape? d p).addSecond? d q

/-- The tally with the states for the second one of several choices, those that join the choices,
and those for the other choices. -/
def Tally.addSecond? (d : Direction) : Shape → Tally → Option Tally
  | .alt p q, t => do (← (← t.addShape? d p).add? 2 2).addChoices? d q
  | p, t => do (← t.addShape? d p).add? 2 2

/-- The tally with the states for further choices. -/
def Tally.addChoices? (d : Direction) : Shape → Tally → Option Tally
  | .alt p q, t => do (← (← t.addShape? d p).add? 0 1).addChoices? d q
  | p, t => do (← t.addShape? d p).add? 0 1

end

/-- The condition at which an automaton starts to read if all its patterns ask for it. -/
def Shape.isAnchored (d : Direction) (p : Shape) : Bool :=
  match d with
  | .forward => p.startsAt .textStart
  | .backward => p.endsAt .textEnd

/-- The tally of the automaton for several patterns. Each of them has a state for its matches, and
if a match can start anywhere, so do a few states that skip bytes. -/
def Tally.ofShapes? (d : Direction) (shapes : List Shape) : Option Tally :=
  let start : Tally :=
    if shapes.all (·.isAnchored d) then { states := 1 }
    else { states := 3, branches := 2, ranges := 1 }
  let one (p : Shape) (t : Tally) : Option Tally := do (← t.addShape? d p).add? 1 0
  match shapes with
  | [] => start.add? 1 0
  | [p] => one p start
  | p :: q :: rest => do
    let t ← (← one q (← one p start)).add? 2 2
    rest.foldlM (fun t p => do (← one p t).add? 0 1) t

/-- Whether the automata for the patterns fit into the space for them. -/
def Shape.fit (shapes : List Shape) : Bool :=
  (Tally.ofShapes? .forward shapes).isSome && (Tally.ofShapes? .backward shapes).isSome

end ClassLiterals
