import ClassLiterals.Paths.Basic
import ClassLiterals.Text.Numeral

/-!
# Command lines

The two commands and their options. An option with a value takes the next argument, or what follows
an equals sign; a short option also what directly follows it. Options and files may be mixed, and
after `--` there are only files. An option is given at most once, and no value and no file name is
empty.
-/

namespace ClassLiterals.Command

/-- What to do. -/
inductive Arguments where
  /-- List the translatable texts of classes. -/
  | scan (config : Option Path) (concurrency : Option Nat) (classes : List Path)
  /-- Write classes with translated texts. -/
  | rewrite (glossary outDir : Path) (config : Option Path) (concurrency batchSize : Option Nat)
      (classes : List Path)
  deriving DecidableEq, Repr

/-- The options of the commands. -/
inductive OptionName where
  | config
  | concurrency
  | glossary
  | outDir
  | batchSize
  deriving DecidableEq, Repr

namespace OptionName

/-- The long form of an option, without the hyphens. -/
def long : OptionName → String
  | config => "config"
  | concurrency => "concurrency"
  | glossary => "glossary"
  | outDir => "out-dir"
  | batchSize => "batch-size"

/-- The short form of an option, if it has one. -/
def short? : OptionName → Option Char
  | concurrency => some 'j'
  | _ => none

end OptionName

/-- The options and files of a command line, in order. -/
structure Words where
  options : List (OptionName × String) := []
  files : List Path := []

namespace Words

/-- The value of an option that was given once; `none` inside if it was not given. -/
def value? (w : Words) (o : OptionName) : Option (Option String) :=
  match w.options.filter (·.1 = o) with
  | [] => some none
  | [(_, value)] => some (some value)
  | _ => none

/-- The path that an option names. An empty path is none. -/
def path? (w : Words) (o : OptionName) : Option (Option Path) := do
  match ← w.value? o with
  | none => return none
  | some value => if value.isEmpty then none else return some value

/-- The whole number below 2 to the 64th that a text spells in decimal digits, with an optional plus
sign. -/
def number? (text : String) : Option Nat :=
  let digits := match text.toList with
    | '+' :: cs => cs
    | cs => cs
  (Text.ofDigits? 10 digits).filter (· < 1 <<< 64)

/-- The number that an option gives. -/
def numberOf? (w : Words) (o : OptionName) : Option (Option Nat) := do
  match ← w.value? o with
  | none => return none
  | some value => return some (← number? value)

/-- The files, of which there has to be at least one. -/
def files? (w : Words) : Option (List Path) :=
  if w.files.isEmpty || w.files.any (·.isEmpty) then none else some w.files

/-- Whether the argument can be a value or a file: it does not start with a hyphen, or it is one. -/
def isPlain (arg : String) : Bool := arg.toList.head? != some '-' || arg == "-"

/-- The option and the value in an argument such as `--name=value`, `--name`, `-nvalue`, `-n=value`
or `-n`, for the given options. -/
def option? (known : List OptionName) (arg : String) : Option (OptionName × Option String) :=
  match arg.toList with
  | '-' :: '-' :: cs => do
    let name := cs.takeWhile (· != '=')
    let o ← known.find? fun o => o.long.toList = name
    match cs.drop name.length with
    | '=' :: value => return (o, some (String.ofList value))
    | _ => return (o, none)
  | '-' :: c :: cs => do
    let o ← known.find? fun o => o.short? = some c
    match cs with
    | [] => return (o, none)
    | '=' :: value => return (o, some (String.ofList value))
    | value => return (o, some (String.ofList value))
  | _ => none

/-- Sorts arguments into options and files, after the words `w`, whose lists are in reverse. -/
def sort (known : List OptionName) (w : Words) : List String → Option Words
  | [] => some { options := w.options.reverse, files := w.files.reverse }
  | "--" :: rest => some { options := w.options.reverse, files := w.files.reverse ++ rest }
  | [arg] =>
    if isPlain arg then some { options := w.options.reverse, files := (arg :: w.files).reverse }
    else
      match option? known arg with
      | some (o, some value) =>
        some { options := ((o, value) :: w.options).reverse, files := w.files.reverse }
      | _ => none
  | arg :: next :: rest =>
    if isPlain arg then sort known { w with files := arg :: w.files } (next :: rest)
    else
      match option? known arg with
      | some (o, some value) =>
        sort known { w with options := (o, value) :: w.options } (next :: rest)
      | some (o, none) =>
        if isPlain next then sort known { w with options := (o, next) :: w.options } rest
        else none
      | none => none

end Words

namespace Arguments

/-- The command that the arguments describe. -/
def parse? : List String → Option Arguments
  | "scan" :: rest => do
    let w ← Words.sort [.config, .concurrency] {} rest
    return .scan (← w.path? .config) (← w.numberOf? .concurrency) (← w.files?)
  | "rewrite" :: rest => do
    let w ← Words.sort [.config, .concurrency, .glossary, .outDir, .batchSize] {} rest
    let glossary ← (← w.path? .glossary)
    let outDir ← (← w.path? .outDir)
    return .rewrite glossary outDir (← w.path? .config) (← w.numberOf? .concurrency)
      (← w.numberOf? .batchSize) (← w.files?)
  | _ => none

end Arguments

end ClassLiterals.Command
