import ClassLiterals.Candidate
import ClassLiterals.Class.Codec

/-!
# Rewriting classes

A rewrite gives the candidates of a class new texts. A dictionary says which: it maps a text to its
replacement. A candidate keeps its text when the dictionary has no other text for it, when the
candidate is shared, and when the replacement is too long for a text entry; the report tells which
candidates fared how. A class in which nothing is replaced keeps its bytes.
-/

namespace ClassLiterals

/-- The replacements of texts: `none` for a text without one. -/
abbrev Dictionary := String → Option String

/-- Why a class cannot be rewritten. -/
inductive ClassError where
  | format (e : FormatError)
  | pool (e : PoolError)
  deriving DecidableEq, Repr

/-- The message for a class that cannot be rewritten. -/
def ClassError.message : ClassError → String
  | format e => e.message
  | pool e => e.message

/-- A text that was replaced. -/
structure Replacement where
  textIndex : UInt16
  old : String
  new : String
  deriving DecidableEq, Repr

/-- What became of the candidates that have a replacement. -/
structure RewriteReport where
  replacements : List Replacement := []
  /-- The entries that kept their texts because they are shared. -/
  skippedShared : List UInt16 := []
  /-- The entries that kept their texts because the replacements are too long. -/
  tooLong : List UInt16 := []
  deriving DecidableEq, Repr

/-- Whether anything was replaced. -/
def RewriteReport.isModified (r : RewriteReport) : Bool := !r.replacements.isEmpty

/-! ## Candidates -/

/-- What becomes of a candidate. -/
inductive Fate where
  /-- The dictionary has no other text for it. -/
  | kept
  /-- It has a replacement, and is shared. -/
  | shared
  /-- Its replacement takes `size` bytes, which is too much. -/
  | tooLong (size : Nat)
  | replaced (new : String)
  /-- Its index names no text entry. -/
  | failed (e : PoolError)
  deriving DecidableEq, Repr

namespace Candidate

/-- The text that the dictionary has for a candidate, if it is another one. -/
def replacement? (d : Dictionary) (x : Candidate) : Option String :=
  (d x.text).filter (· != x.text)

/-- What becomes of a candidate. Replacing texts makes no entry one of another kind, so it does not
matter which candidates have been replaced before. -/
def fate (d : Dictionary) (pool : Pool) (x : Candidate) : Fate :=
  match x.replacement? d with
  | none => .kept
  | some new =>
    if x.shared then .shared
    else
      match pool.entryFor x.textIndex new with
      | .ok _ => .replaced new
      | .error (.textTooLong size) => .tooLong size
      | .error e => .failed e

end Candidate

/-- The outcome of giving candidates new texts. -/
structure Applied where
  pool : Pool
  report : RewriteReport
  warnings : List Warning
  /-- The failure that ended the work. What was done before it is kept. -/
  failure : Option PoolError
  deriving DecidableEq, Repr

namespace Applied

/-- The candidates in order with what becomes of them. -/
def fates (d : Dictionary) (pool : Pool) (xs : List Candidate) : List (Candidate × Fate) :=
  xs.map fun x => (x, x.fate d pool)

/-- The replacement that a candidate's fate is. -/
def replacementOf? : Candidate × Fate → Option Replacement
  | (x, .replaced new) => some ⟨x.textIndex, x.text, new⟩
  | _ => none

/-- The entry of a candidate that is shared. -/
def sharedOf? : Candidate × Fate → Option UInt16
  | (x, .shared) => some x.textIndex
  | _ => none

/-- The entry of a candidate whose replacement is too long, with the warning about it. -/
def tooLongOf? : Candidate × Fate → Option (UInt16 × Warning)
  | (x, .tooLong size) => some (x.textIndex, .replacementTooLong x.textIndex size x.text)
  | _ => none

/-- The failure that a fate is. -/
def failureOf? : Candidate × Fate → Option PoolError
  | (_, .failed e) => some e
  | _ => none

/-- The pool after a replacement. -/
def replaceIn (pool : Pool) (r : Replacement) : Pool :=
  match pool.entryFor r.textIndex r.new with
  | .ok entry => pool.setSlot r.textIndex (.utf8 entry)
  | .error _ => pool

/-- Gives the candidates the texts of a dictionary, up to the first one that fails. -/
def ofCandidates (d : Dictionary) (pool : Pool) (xs : List Candidate) : Applied :=
  let all := fates d pool xs
  let done := all.takeWhile fun x => (failureOf? x).isNone
  let replacements := done.filterMap replacementOf?
  let tooLong := done.filterMap tooLongOf?
  { pool := replacements.foldl replaceIn pool
    report :=
      { replacements
        skippedShared := done.filterMap sharedOf?
        tooLong := tooLong.map (·.1) }
    warnings := tooLong.map (·.2)
    failure := all.findSome? failureOf? }

end Applied

/-! ## Classes -/

/-- A class after a rewrite. -/
structure Rewritten where
  bytes : Bytes
  report : RewriteReport
  warnings : List Warning
  deriving DecidableEq, Repr

/-- Rewrites the class with the given bytes. When nothing is replaced they stay as they are. -/
def rewriteClass (f : VisibilityFilter) (d : Dictionary) (bytes : Bytes) :
    Except ClassError Rewritten :=
  match ClassFile.parse bytes with
  | .error e => .error (.format e)
  | .ok c =>
    let applied := Applied.ofCandidates d c.pool (c.candidates f)
    let warnings := c.warnings ++ applied.warnings
    match applied.failure with
    | some e => .error (.pool e)
    | none =>
      .ok {
        bytes :=
          if applied.report.isModified then { c with pool := applied.pool }.toBytes else bytes
        report := applied.report
        warnings }

end ClassLiterals
