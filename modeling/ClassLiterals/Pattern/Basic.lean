import ClassLiterals.Pattern.CharSet
import Std.Data.HashSet

/-!
# Patterns

A pattern describes texts by sets of characters, sequences, choices and repetitions, and by
conditions on the place between two characters. Whether a text *contains* a match is decided by
reading it once from left to right: the matcher keeps what is left to match of every attempt, and
starts a new attempt at every place.
-/

namespace ClassLiterals

/-- Which characters make up words. -/
inductive WordChars where
  | unicode
  | ascii
  deriving DecidableEq, Hashable, Repr

/-- Whether the character, if there is one, is part of a word. -/
def WordChars.contains (w : WordChars) : Option Char → Bool
  | none => false
  | some c =>
    match w with
    | unicode => Unicode.isWord c.toNat
    | ascii => c.isAlphanum || c = '_'

/-- A condition on a place in a text. -/
inductive Boundary where
  | textStart
  | textEnd
  | lineStart
  | lineEnd
  /-- The start of a line that ends in a line feed, a carriage return or both. -/
  | anyLineStart
  /-- The end of a line that ends in a line feed, a carriage return or both. -/
  | anyLineEnd
  | wordEdge (w : WordChars)
  | noWordEdge (w : WordChars)
  | wordStart (w : WordChars)
  | wordEnd (w : WordChars)
  /-- No word reaches the place from the left. -/
  | noWordBefore (w : WordChars)
  /-- No word goes on to the right of the place. -/
  | noWordAfter (w : WordChars)
  deriving DecidableEq, Hashable, Repr

/-- Whether the condition holds between two characters, which are missing at the ends of the
text. -/
def Boundary.holds (before after : Option Char) : Boundary → Bool
  | textStart => before.isNone
  | textEnd => after.isNone
  | lineStart => before.isNone || before == some '\n'
  | lineEnd => after.isNone || after == some '\n'
  | anyLineStart =>
    before.isNone || before == some '\n' || (before == some '\r' && after != some '\n')
  | anyLineEnd =>
    after.isNone || after == some '\r' || (after == some '\n' && before != some '\r')
  | wordEdge w => w.contains before != w.contains after
  | noWordEdge w => w.contains before == w.contains after
  | wordStart w => !w.contains before && w.contains after
  | wordEnd w => w.contains before && !w.contains after
  | noWordBefore w => !w.contains before
  | noWordAfter w => !w.contains after

/-- A pattern. -/
inductive Pattern where
  /-- The empty text. -/
  | empty
  /-- One character of a set. -/
  | chars (s : CharSet)
  /-- The empty text, at a place where a condition holds. -/
  | boundary (b : Boundary)
  /-- One pattern after the other. -/
  | seq (p q : Pattern)
  /-- One of two patterns. -/
  | alt (p q : Pattern)
  /-- A pattern at least `least` times and, if there is a `most`, at most that often. -/
  | times (least : Nat) (most : Option Nat) (p : Pattern)
  deriving DecidableEq, Hashable, Repr

namespace Pattern

/-! ## Building patterns -/

/-- The pattern of one given character. -/
def char (c : Char) : Pattern := chars (.single c)

/-- The patterns one after the other. -/
def concat : List Pattern → Pattern
  | [] => empty
  | [p] => p
  | p :: rest => seq p (concat rest)

/-- One of the patterns; of none, nothing matches. -/
def oneOf : List Pattern → Pattern
  | [] => chars .empty
  | [p] => p
  | p :: rest => alt p (oneOf rest)

/-! ## Matching -/

/-- Whether the pattern matches the empty text between two characters. -/
def matchesEmpty (before after : Option Char) : Pattern → Bool
  | empty => true
  | chars _ => false
  | boundary b => b.holds before after
  | seq p q => p.matchesEmpty before after && q.matchesEmpty before after
  | alt p q => p.matchesEmpty before after || q.matchesEmpty before after
  | times least _ p => least == 0 || p.matchesEmpty before after

/-- First `p`, then `q`, without a step that matches nothing. -/
def andThen (p q : Pattern) : Pattern :=
  match p with
  | empty => q
  | p => seq p q

/-- What may be left to match of the pattern after the character `c`, which follows `before`. A
repetition reads the character in one of its rounds; where a round may match nothing, the ones
before it have, and no more rounds have to follow. -/
def after (before : Option Char) (c : Char) : Pattern → List Pattern
  | empty => []
  | chars s => if s.contains c then [empty] else []
  | boundary _ => []
  | seq p q =>
    (p.after before c).map (·.andThen q) ++
      if p.matchesEmpty before (some c) then q.after before c else []
  | alt p q => p.after before c ++ q.after before c
  | times _ (some 0) _ => []
  | times least most p =>
    let needed := if p.matchesEmpty before (some c) then 0 else least - 1
    (p.after before c).map (·.andThen (times needed (most.map (· - 1)) p))

/-- The patterns, each of them once, in some order. -/
def distinct : List Pattern → List Pattern
  | [] => []
  | [p] => [p]
  | ps => (Std.HashSet.ofList ps).toList

/-- Nothing is lost or added. -/
@[simp]
theorem mem_distinct {p : Pattern} {ps : List Pattern} : p ∈ distinct ps ↔ p ∈ ps := by
  unfold distinct
  split <;> simp

/-- Whether one of the patterns `live` matches a text that starts here, or `p` matches somewhere
from here on. -/
def searchFrom (p : Pattern) (before : Option Char) (live : List Pattern) : List Char → Bool
  | [] => (p :: live).any (·.matchesEmpty before none)
  | c :: rest =>
    (p :: live).any (·.matchesEmpty before (some c)) ||
      searchFrom p (some c) (distinct ((p :: live).flatMap (·.after before c))) rest

/-- Whether the text contains a match of the pattern. -/
def search (p : Pattern) (text : List Char) : Bool :=
  p.searchFrom none [] text

end Pattern

end ClassLiterals
