import ClassLiterals.Command.Arguments
import ClassLiterals.Command.Plan
import ClassLiterals.Settings.Basic
import ClassLiterals.Text.Quoted

/-!
# Running commands

Both commands work on any file system that can read files, make directories, write files and print
lines, so that the same steps run on real files and on a model of them.

`scan` prints a line for every translatable text. `rewrite` looks the translatable texts up in a
glossary and writes every class, changed or not, below the output directory. A class that cannot be
read or rewritten makes the command fail at its end; all else that goes wrong ends it at once.
-/

namespace ClassLiterals.Command

/-- Why a command failed. -/
inductive CommandError where
  | unreadableConfig (path : Path)
  | badConfig (path : Path)
  | badExclusion (e : ExclusionError)
  | unreadableGlossary (path : Path)
  | badGlossary (path : Path)
  | cannotCreate (path : Path)
  | cannotWrite (path : Path)
  /-- Some of the classes failed. -/
  | classesFailed (failed total : Nat)
  deriving DecidableEq, Repr

open Text in
/-- The message for a failed command. -/
def CommandError.message : CommandError → String
  | unreadableConfig path => "Failed to read config " ++ path
  | badConfig path => "Invalid config " ++ path
  | badExclusion e => "Invalid exclusion pattern: " ++ e.message
  | unreadableGlossary path => "Failed to read glossary " ++ path
  | badGlossary path => "Invalid glossary " ++ path
  | cannotCreate path => "Failed to create " ++ path
  | cannotWrite path => "Failed to write " ++ path
  | classesFailed failed total =>
    decimal failed ++ " of " ++ decimal total ++ " class files failed"

/-- The operations on files that commands need. -/
structure FileSystem (m : Type → Type) where
  /-- The content of a file, if it can be read. -/
  read : Path → m (Option Bytes)
  /-- Makes a directory and the ones above it, where they are missing; tells whether it is there
  afterwards. -/
  makeDirectory : Path → m Bool
  /-- Writes a file; tells whether that worked. -/
  write : Path → Bytes → m Bool
  /-- Prints a line. -/
  print : String → m Unit

/-- How a command ended. -/
inductive Outcome where
  | succeeded
  | failed (e : CommandError)
  /-- The command line describes no command. -/
  | badUsage
  deriving DecidableEq, Repr

/-- The exit status of the program. -/
def Outcome.status : Outcome → UInt8
  | succeeded => 0
  | failed _ => 1
  | badUsage => 2

/-- The text that bytes encode, if they do. -/
def utf8Text? (bytes : Bytes) : Option String := String.fromUTF8? ⟨bytes.toArray⟩

section

variable {m : Type → Type} [Monad m] (fs : FileSystem m)

/-- A step of a command. -/
abbrev Step (m : Type → Type) (α : Type) := ExceptT CommandError m α

/-- Reads a text file. -/
def readText (path : Path) (unreadable : CommandError) : Step m String := do
  match (← (fs.read path : m _)).bind utf8Text? with
  | some text => return text
  | none => throw unreadable

/-- Reads the settings; without a file they are the defaults. -/
def loadSettings : Option Path → Step m Settings
  | none => return {}
  | some path => do
    let text ← readText fs path (.unreadableConfig path)
    match Settings.parse? text with
    | some settings => return settings
    | none => throw (.badConfig path)

/-- Reads a glossary. -/
def loadGlossary (path : Path) : Step m Glossary := do
  let text ← readText fs path (.unreadableGlossary path)
  match Glossary.parse? text with
  | some glossary => return glossary
  | none => throw (.badGlossary path)

/-- The filter of the settings. -/
def filterOf (settings : Settings) : Step m VisibilityFilter :=
  match settings.filter with
  | .ok f => return f
  | .error e => throw (.badExclusion e)

/-- The classes that can be read, in order and under their paths. -/
def readClasses (paths : List Path) : Step m (List ClassEntry) := do
  let contents ← paths.mapM fun path => do
    return (← (fs.read path : m _)).map fun bytes => (⟨path, bytes⟩ : ClassEntry)
  return contents.filterMap id

/-- Fails when some of the classes failed. -/
def reportFailed (failed total : Nat) : Step m Unit :=
  if failed = 0 then return () else throw (.classesFailed failed total)

open Text in
/-- The line for a text. -/
def scanLine (e : CatalogueEntry) : String :=
  padLeft 6 ' ' (decimal e.occurrences.toNat) ++ "  " ++ padRight 11 ' ' e.kind.name ++ "  " ++
    quoted e.text ++ "  " ++ ", ".intercalate e.files

/-- Lists the translatable texts of classes. -/
def scan (settings : Settings) (paths : List Path) : Step m Unit := do
  let f ← filterOf settings
  let entries ← readClasses fs paths
  let found := BatchScan.ofEntries f entries
  for e in found.catalogue.sorted.filter fun e => f.isTranslatable e.text do
    fs.print (scanLine e)
  reportFailed (paths.length - entries.length + found.failures.length) paths.length

/-- Makes a directory. -/
def makeDirectory (path : Path) : Step m Unit := do
  if !(← (fs.makeDirectory path : m _)) then throw (.cannotCreate path)

/-- Writes what a step says. -/
def performStep : WriteStep → Step m Unit
  | .write path outcome => do
    if let some parent := path.parent? then makeDirectory fs parent
    if !(← (fs.write path outcome.bytes : m _)) then throw (.cannotWrite path)
  | .noName _ => return ()
  | .taken _ _ => return ()

/-- The outcomes of rewriting classes by a glossary: the translatable texts of all classes are
translated in batches, and every class is rewritten with the translations. -/
def translateClasses (f : VisibilityFilter) (glossary : Glossary) (batchSize : Nat)
    (entries : List ClassEntry) : List ClassOutcome :=
  let texts := (BatchScan.ofEntries f entries).catalogue.translatableTexts f
  let run := TranslationRun.translateAll glossary.translator batchSize texts
  rewriteClasses f (run.translations[·]?) entries

/-- Translates classes and writes them below the output directory. -/
def rewrite (settings : Settings) (glossaryPath outDir : Path) (paths : List Path) :
    Step m Unit := do
  let f ← filterOf settings
  let glossary ← loadGlossary fs glossaryPath
  let entries ← readClasses fs paths
  let outcomes := translateClasses f glossary settings.batchSize entries
  makeDirectory fs outDir
  let steps := WriteStep.ofOutcomes outDir (entries.map (·.name)) outcomes
  for step in steps do
    performStep fs step
  reportFailed (paths.length - entries.length + steps.countP (·.isFailed)) paths.length

/-- Runs a command. -/
def perform : Arguments → Step m Unit
  | .scan config concurrency classes => do
    let settings ← loadSettings fs config
    scan fs { settings with concurrency := concurrency <|> settings.concurrency } classes
  | .rewrite glossary outDir config concurrency batchSize classes => do
    let settings ← loadSettings fs config
    rewrite fs
      { settings with
        concurrency := concurrency <|> settings.concurrency
        batchSize := batchSize.getD settings.batchSize }
      glossary outDir classes

/-- Runs the command that the arguments describe. -/
def run (args : List String) : m Outcome := do
  match Arguments.parse? args with
  | none => return .badUsage
  | some command =>
    match ← (perform fs command).run with
    | .ok _ => return .succeeded
    | .error e => return .failed e

end

end ClassLiterals.Command
