import ClassLiterals.Text.Numeral
import Std.Data.HashMap

/-!
# Glossaries and translators

A translator turns a list of texts into their translations, one for each text and in the same order,
or fails. Texts are sent to it in batches. A batch that fails, or that comes back with the wrong
number of texts, maps its texts to themselves, so that one failure does not spoil the others.

A glossary is the simplest translator: it knows the translations of some texts and leaves all other
texts alone.
-/

namespace ClassLiterals

/-- Translations of texts. -/
abbrev Glossary := Std.HashMap String String

/-- Why a batch was not translated. -/
inductive TranslateError where
  /-- The translator gave up, with a text that says why. -/
  | provider (reason : String)
  /-- The translator gave the wrong number of texts. -/
  | countMismatch (expected actual : Nat)
  deriving DecidableEq, Repr

open Text in
/-- The message for a batch that was not translated. -/
def TranslateError.message : TranslateError → String
  | provider reason => "Translation provider failed: " ++ reason
  | countMismatch expected actual =>
    "Expected " ++ decimal expected ++ " translations, got " ++ decimal actual

/-- A translator answers its calls, which are numbered from zero. -/
abbrev Translator := (call : Nat) → (texts : List String) → Except TranslateError (List String)

/-- The translator that looks texts up and leaves unknown texts alone. -/
def Glossary.translator (g : Glossary) : Translator := fun _ texts =>
  .ok (texts.map fun text => g.getD text text)

/-- The outcome of translating many texts. -/
structure TranslationRun where
  translations : Glossary := ∅
  batches : Nat := 0
  failedBatches : Nat := 0
  /-- The messages about failed batches, in reverse. -/
  warnings : List String := []

namespace TranslationRun

/-- The list cut into pieces of `size + 1` elements, the last one excepted. -/
def chunks {α : Type} (size : Nat) (xs : List α) : List (List α) :=
  go xs []
where
  go (xs : List α) (done : List (List α)) : List (List α) :=
    match xs with
    | [] => done.reverse
    | x :: rest => go (rest.drop size) ((x :: rest.take size) :: done)
  termination_by xs.length
  decreasing_by simp only [List.length_cons, List.length_drop]; omega

/-- The answer for a batch, checked for its number of texts. -/
def answer (t : Translator) (call : Nat) (batch : List String) :
    Except TranslateError (List String) :=
  match t call batch with
  | .error e => .error e
  | .ok texts =>
    if texts.length = batch.length then .ok texts
    else .error (.countMismatch batch.length texts.length)

open Text in
/-- The run after another batch. Later translations of a text win over earlier ones. -/
def step (t : Translator) (run : TranslationRun) (batch : List String) : TranslationRun :=
  match answer t run.batches batch with
  | .ok texts =>
    { run with
      translations := run.translations.insertMany (batch.zip texts)
      batches := run.batches + 1 }
  | .error e =>
    { translations := run.translations.insertMany (batch.zip batch)
      batches := run.batches + 1
      failedBatches := run.failedBatches + 1
      warnings :=
        ("Batch " ++ decimal (run.batches + 1) ++ " failed, keeping its " ++
          decimal batch.length ++ " texts: " ++ e.message) :: run.warnings }

/-- Translates the texts in batches of `batchSize`; a size of zero counts as one. -/
def translateAll (t : Translator) (batchSize : Nat) (texts : List String) : TranslationRun :=
  let run := (chunks (batchSize - 1) texts).foldl (step t) {}
  { run with warnings := run.warnings.reverse }

end TranslationRun

end ClassLiterals
