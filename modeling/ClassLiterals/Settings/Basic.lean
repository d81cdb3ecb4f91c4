import ClassLiterals.Settings.Reader
import ClassLiterals.Glossary
import ClassLiterals.Visibility

/-!
# Settings and glossary files

The settings of a run, all with defaults, and the two kinds of file that a run reads: a settings
file is a structure of fields, a glossary file a map from texts to their translations.
-/

namespace ClassLiterals

/-- The settings of a run. -/
structure Settings where
  /-- The number of texts in a batch for the translator. -/
  batchSize : Nat := 20
  /-- The pause between two batches, in milliseconds. -/
  batchDelay : Nat := 1000
  /-- The number of classes that are worked on at once; as many as the machine can, if none is
  given. -/
  concurrency : Option Nat := none
  /-- The least number of characters of a visible text. -/
  minTextLength : Nat := 2
  /-- Patterns of texts that are never visible. -/
  excludePatterns : List String := []
  deriving DecidableEq, Repr

namespace Settings

open Reader

/-- The numbers that fields hold are below this bound. -/
def numberBound : Nat := 1 <<< 64

/-- The nesting that is left for the value of a field: a step leads into the structure of the
settings and one to the value. -/
def fieldSteps : Nat := maxSteps - 2

/-- A field of a settings file, as a change of the settings under its name. -/
def field (rules : Rules) (name : String) : Reader (String × (Settings → Settings)) := do
  match name with
  | "batch_size" => do
    let n ← number numberBound
    return (name, fun s => { s with batchSize := n })
  | "batch_delay_ms" => do
    let n ← number numberBound
    return (name, fun s => { s with batchDelay := n })
  | "concurrency" => do
    let n ← number numberBound
    return (name, fun s => { s with concurrency := some n })
  | "min_text_length" => do
    let n ← number numberBound
    return (name, fun s => { s with minTextLength := n })
  | "exclude_patterns" => do
    expect "["
    let patterns ← collection rules ']' text
    return (name, fun s => { s with excludePatterns := patterns })
  | _ => do
    anyValue rules fieldSteps
    return ("", id)

/-- Reads the fields of a settings file. A field has one value; a field with an unknown name does
not matter. -/
def read (rules : Rules) : Reader Settings := do
  if (name? (← get)).isSome then
    if (← name) != "Config" then failure
  blank
  expect "("
  let changes ← collection rules ')' (pair name (field rules))
  let names := (changes.map (·.1)).filter (· != "")
  if names.eraseDups.length != names.length then failure
  return changes.foldl (fun s change => change.2 s) {}

/-- The settings in a file with the given content. -/
def parse? (content : String) : Option Settings := file read content

/-- The filter for visible texts, unless the excluded patterns are refused. -/
def filter (s : Settings) : Except ExclusionError VisibilityFilter :=
  VisibilityFilter.ofExclusions s.minTextLength s.excludePatterns

end Settings

namespace Glossary

open Settings.Reader

/-- Reads a glossary: a map from texts to texts. Of two translations of a text the later one
counts. -/
def read (rules : Settings.Rules) : Settings.Reader Glossary := do
  expect "\x7b"
  let entries ← collection rules '\x7d' (pair text fun source => do return (source, ← text))
  return Std.HashMap.ofList entries

/-- The glossary in a file with the given content. -/
def parse? (content : String) : Option Glossary := file read content

end Glossary

end ClassLiterals
