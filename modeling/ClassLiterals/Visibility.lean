import ClassLiterals.Pattern.Automaton
import ClassLiterals.Pattern.Parser

/-!
# Visible texts

Most texts in a class file are names, descriptors, numbers and the like, which nobody but a program
reads. A filter tells them from texts meant for people: a text is *visible* when it is long enough
and looks like none of the technical forms, and *translatable* when it also has a letter and is more
than a run of placeholder signs.
-/

namespace ClassLiterals

namespace Text

/-- The text without the white space at both ends. -/
def trim (text : List Char) : List Char :=
  ((text.dropWhile blank).reverse.dropWhile blank).reverse
where
  blank (c : Char) : Bool := Unicode.isBlank c.toNat

/-- Whether the text has a letter of some script. -/
def hasLetter (text : List Char) : Bool := text.any fun c => Unicode.isAlphabetic c.toNat

/-- Whether the text is a run of percent signs and braces. -/
def isPlaceholderRun (text : List Char) : Bool :=
  !text.isEmpty && text.all fun c => c = '%' || c = '\x7b' || c = '\x7d'

end Text

/-- What makes a text visible. -/
structure VisibilityFilter where
  /-- The least number of characters, white space at the ends apart. -/
  minLength : Nat
  /-- The forms that a visible text does not have. -/
  rejected : List Pattern
  deriving DecidableEq, Repr

/-- Why there is no filter for exclusions. -/
inductive ExclusionError where
  /-- One of them is no pattern. -/
  | malformed
  /-- Their automata take too much space. -/
  | tooLarge
  deriving DecidableEq, Repr

/-- The message for an error in exclusions, up to the end of its first line. -/
def ExclusionError.message : ExclusionError → String
  | malformed => "regex parse error:"
  | tooLarge =>
    "Compiled regex exceeds size limit of " ++ Text.decimal Tally.maxSpace ++ " bytes."

namespace VisibilityFilter

/-- The forms of text that only programs use. -/
def technicalForms : List String :=
  [ -- qualified names of packages and classes
    "^[a-z][a-z0-9_]*(\\.[A-Za-z_$][\\w$]*)+$",
    -- method descriptors
    "^\\((\\[*([BCDFIJSZ]|L[^;]+;))*\\)(V|\\[*([BCDFIJSZ]|L[^;]+;))$",
    -- class descriptors
    "^L[\\w/$]+;$",
    -- array descriptors
    "^\\[+([BCDFIJSZ]|L[^;]+;)$",
    -- internal names of classes
    "^[A-Za-z_$][\\w$]*(/[A-Za-z_$][\\w$]*)+$",
    -- names of constants
    "^[A-Z_][A-Z0-9_]*$",
    -- accessors
    "^(get|set|is)[A-Z][A-Za-z0-9_]*$",
    -- names with inner capitals, and names with underscores
    "^[a-z]+([A-Z][a-z0-9]*)+$",
    "^[a-z][a-z0-9]*(_[a-z0-9]+)+$",
    "^<(init|clinit)>$",
    -- numbers and versions
    "^\\d+(\\.\\d+)*$",
    -- hashes
    "(?i)^[a-f0-9]\x7b8,\x7d$",
    -- runs of separators
    "^[\\\\/.\\-_]+$",
    "(?i)^(true|false|null)$"]

/-- The patterns of the technical forms. -/
def technicalPatterns : List Pattern :=
  technicalForms.filterMap Pattern.parse?

/-- The shapes of the technical forms. -/
def technicalShapes : List Shape :=
  technicalForms.filterMap fun form => (Pattern.Part.parse? form).map (·.shape)

/-- The parts that exclusions describe. -/
def readExclusions (exclusions : List String) : Except ExclusionError (List Pattern.Part) :=
  match exclusions.mapM Pattern.Part.parse? with
  | some parts => .ok parts
  | none => .error .malformed

/-- Whether the automata for the technical forms and further patterns fit into the space for them.
Without further patterns they do. -/
def fit (extra : List Shape) : Bool :=
  extra.isEmpty || Shape.fit (technicalShapes ++ extra)

/-- The filter that asks for `minLength` characters and rejects the `exclusions` besides the
technical forms. There is none when an exclusion is no pattern, or when they are too large. -/
def ofExclusions (minLength : Nat) (exclusions : List String) :
    Except ExclusionError VisibilityFilter := do
  let extra ← readExclusions exclusions
  if fit (extra.map (·.shape)) then
    return ⟨minLength, technicalPatterns ++ extra.map (·.pattern)⟩
  else throw .tooLarge

/-- Whether the text is meant for people. White space at its ends does not count. -/
def isVisible (f : VisibilityFilter) (text : String) : Bool :=
  let core := Text.trim text.toList
  f.minLength ≤ core.length && !f.rejected.any (·.search core)

/-- Whether the text is meant for people and worth translating. -/
def isTranslatable (f : VisibilityFilter) (text : String) : Bool :=
  f.isVisible text && Text.hasLetter text.toList && !Text.isPlaceholderRun text.toList

end VisibilityFilter

end ClassLiterals
