import ClassLiterals.Unicode.BinaryProperty
import ClassLiterals.Unicode.Break
import ClassLiterals.Unicode.Script
import ClassLiterals.Unicode.Version

/-!
# Properties of characters

The properties that a pattern can ask for: white space, decimal digits, characters of words, general
categories, and the properties that are listed by name, with the names they all go by.
-/

namespace ClassLiterals.Unicode

/-- Whether the code point `n` is white space. -/
def isBlank (n : Nat) : Bool := blankRanges.covers n

/-- The code points with a character. -/
def assignedRanges : Ranges := Category.unassignedRanges.compl

/-- The lists of sets with names. -/
inductive Listing where
  | binary
  | script
  | scriptExtension
  | version
  | characterBreak
  | wordBreak
  | sentenceBreak
  deriving DecidableEq, Hashable, Repr

/-- The sets of a listing. -/
def Listing.table : Listing → Array NamedRanges
  | binary => binaryProperties
  | script => scripts
  | scriptExtension => scriptExtensions
  | version => versions
  | characterBreak => characterBreaks
  | wordBreak => wordBreaks
  | sentenceBreak => sentenceBreaks

/-- A property that a character has or lacks. -/
inductive Property where
  | word
  | digit
  | blank
  | alphabetic
  | ascii
  | anything
  | assigned
  | category (c : Category)
  /-- The set at a place of a listing. -/
  | listed (l : Listing) (place : Nat)
  deriving DecidableEq, Hashable, Repr

namespace Property

/-- The code points with the property. -/
def ranges : Property → Ranges
  | word => wordRanges
  | digit => Category.decimalNumberRanges
  | blank => blankRanges
  | alphabetic => alphabeticRanges
  | ascii => [(0, 0x7F)]
  | anything => [(0, lastCode)]
  | assigned => assignedRanges
  | category c => c.ranges
  | listed l place => rangesAt l.table place

/-- Whether the code point `n` has the property. -/
def contains (p : Property) (n : Nat) : Bool :=
  p.ranges.covers n

/-! ## Names -/

/-- The name in loose form: without case, blanks, underscores, hyphens and a leading `is`. -/
def looseName (name : List Char) : String :=
  match name.map Char.toLower with
  | 'i' :: 's' :: rest => if keep rest = ['c'] then "isc" else String.ofList (keep rest)
  | other => String.ofList (keep other)
where
  keep (cs : List Char) : List Char :=
    cs.filter fun c => c.toNat < 0x80 && c != ' ' && c != '_' && c != '-'

/-- The properties that a name in a listing stands for. -/
def ofListing? (l : Listing) (name : String) : Option (List Property) :=
  (placeOf? l.table name).map fun place => [listed l place]

/-- The properties that a name of a general category stands for. -/
def ofCategoryName? (name : String) : Option (List Property) :=
  if name = "any" then some [anything]
  else if name = "assigned" then some [assigned]
  else if name = "ascii" then some [ascii]
  else (Category.ofName? name).map (·.map category)

/-- The properties that the name of a binary property stands for. -/
def ofBinaryName? (name : String) : Option (List Property) :=
  if ["alphabetic", "alpha"].contains name then some [alphabetic]
  else ofListing? .binary name

/-- The properties that a single name stands for: a character has one of them if it has the named
property. -/
def ofName? (name : List Char) : Option (List Property) :=
  let loose := looseName name
  ofBinaryName? loose <|> ofCategoryName? loose <|> ofListing? .script loose

/-- The properties that a name with a value stands for. -/
def ofValue? (name value : List Char) : Option (List Property) :=
  let value := looseName value
  match looseName name with
  | "gc" | "generalcategory" => ofCategoryName? value
  | "sc" | "script" => ofListing? .script value
  | "scx" | "scriptextensions" => ofListing? .scriptExtension value
  | "age" => ofListing? .version value
  | "gcb" | "graphemeclusterbreak" => ofListing? .characterBreak value
  | "wb" | "wordbreak" => ofListing? .wordBreak value
  | "sb" | "sentencebreak" => ofListing? .sentenceBreak value
  | _ => none

end Property

end ClassLiterals.Unicode
