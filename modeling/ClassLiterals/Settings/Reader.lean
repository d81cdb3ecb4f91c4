import ClassLiterals.Text.Numeral

/-!
# Reading settings files

The parts of a settings file. Values are numbers, quoted texts, lists `[a, b]`, maps `\x7bk: v\x7d`
and structures `(field: value)`; blanks and comments may stand between any two parts, and a comma
may stand after the last element. A part that is not as expected makes the whole file invalid, so a
reader has no causes to tell apart.
-/

namespace ClassLiterals.Settings

open Text

/-- An extension of the format that a file can ask for. -/
inductive Extension where
  /-- The value of an option may follow `Some` without parentheses. -/
  | implicitSome
  /-- A structure of one value may be written as that value. -/
  | unwrapNewtypes
  /-- The structure in a choice may be written without its own parentheses. -/
  | unwrapVariantNewtypes
  deriving DecidableEq, Repr

/-- The extension with a name. -/
def Extension.ofName? : String → Option Extension
  | "implicit_some" => some implicitSome
  | "unwrap_newtypes" => some unwrapNewtypes
  | "unwrap_variant_newtypes" => some unwrapVariantNewtypes
  | _ => none

/-- What holds in all of a file. -/
structure Rules where
  extensions : List Extension := []
  /-- The greatest number of elements in a collection. A file has fewer of them than characters. -/
  maxElements : Nat

/-- A reader of parts of a settings file. -/
abbrev Reader (α : Type) := StateT (List Char) Option α

namespace Reader

/-! ## Blanks -/

/-- Where in blanks a reader is. -/
inductive BlankState where
  | blank
  /-- In a comment up to the end of the line. -/
  | line
  /-- In a comment between marks, with `depth` more comments around. -/
  | block (depth : Nat)

/-- The text after blanks and comments. A comment between marks has to be closed, and may hold
others. -/
def dropBlank : BlankState → List Char → Option (List Char)
  | .blank, '/' :: '/' :: cs => dropBlank .line cs
  | .blank, '/' :: '*' :: cs => dropBlank (.block 0) cs
  | .blank, '/' :: _ => none
  | .blank, c :: cs =>
    if c = ' ' ∨ c = '\n' ∨ c = '\t' ∨ c = '\r' then dropBlank .blank cs else some (c :: cs)
  | .line, c :: cs => dropBlank (if c = '\n' then .blank else .line) cs
  | .block depth, '/' :: '*' :: cs => dropBlank (.block (depth + 1)) cs
  | .block 0, '*' :: '/' :: cs => dropBlank .blank cs
  | .block (depth + 1), '*' :: '/' :: cs => dropBlank (.block depth) cs
  | .block depth, _ :: cs => dropBlank (.block depth) cs
  | .block _, [] => none
  | .blank, [] => some []
  | .line, [] => some []

/-- Skips blanks and comments. -/
def blank : Reader Unit := fun cs => (dropBlank .blank cs).map ((), ·)

/-! ## Signs -/

/-- The next character, if there is one. -/
def peek : Reader (Option Char) := fun cs => some (cs.head?, cs)

/-- Whether the given signs come next; if so, they are read. -/
def accept (signs : String) : Reader Bool := fun cs =>
  if signs.toList.isPrefixOf cs then some (true, cs.drop signs.length) else some (false, cs)

/-- Reads the given signs. -/
def expect (signs : String) : Reader Unit := do
  if !(← accept signs) then failure

/-- Reads the longest run of characters that all satisfy `p`. -/
def takeWhile (p : Char → Bool) : Reader (List Char) := fun cs =>
  let taken := cs.takeWhile p
  some (taken, cs.drop taken.length)

/-- Reads a comma with the blanks around it, if there is one. -/
def comma : Reader Bool := do
  blank
  if ← accept "," then
    blank
    return true
  else return false

/-! ## Names -/

/-- Whether a name may start with the character. -/
def startsName (c : Char) : Bool := c.isAlpha || c = '_'

/-- Whether a name may go on with the character. -/
def inName (c : Char) : Bool := c.isAlphanum || c = '_'

/-- Whether a name after the mark `r#` may have the character. -/
def inRawName (c : Char) : Bool := inName c || c = '.' || c = '+' || c = '-'

/-- A name at the start of the text, with the text after it. -/
def name? (cs : List Char) : Option (List Char × List Char) :=
  match cs with
  | 'r' :: '"' :: _ => none
  | 'r' :: '#' :: cs =>
    let taken := cs.takeWhile inRawName
    if taken.isEmpty then none else some (taken, cs.drop taken.length)
  | c :: _ =>
    let taken := cs.takeWhile inName
    let rest := cs.drop taken.length
    if startsName c && !rest.head?.any inRawName then some (taken, rest) else none
  | [] => none

/-- Reads a name. -/
def name : Reader String :=
  fun cs => (name? cs).map fun (taken, rest) => (String.ofList taken, rest)

/-- Whether the given word comes next, as a whole; if so, it is read. -/
def acceptWord (word : String) : Reader Bool := fun cs =>
  let rest := cs.drop word.length
  if word.toList.isPrefixOf cs && !rest.head?.any inName then some (true, rest)
  else some (false, cs)

/-! ## Numbers -/

/-- Whether the character can be part of a whole number: a digit up to base sixteen, or an
underscore. -/
def inNumber (c : Char) : Bool := (digitValue? 16 c).isSome || c = '_'

/-- The base that the start of a number announces. -/
def base : Reader Nat := do
  if ← accept "0x" then return 16
  else if ← accept "0b" then return 2
  else if ← accept "0o" then return 8
  else return 10

/-- Reads a whole number below `bound`. Underscores may stand between its digits. -/
def number (bound : Nat) : Reader Nat := do
  let base ← base
  let digits ← takeWhile inNumber
  if digits.head? = some '_' then failure
  let value ← (ofDigits? base (digits.filter (· != '_')) : Option _)
  if value < bound then return value else failure

/-- Reads a whole number that may have a sign. It has 64 bits, of which one holds the sign when
there is one. -/
def signedNumber : Reader Unit := do
  let bound ←
    if ← accept "+" then pure (1 <<< 63)
    else if ← accept "-" then pure ((1 <<< 63) + 1)
    else pure (1 <<< 64)
  let _ ← number bound

/-- Whether the text is a decimal fraction, possibly with a sign and an exponent. -/
def isFraction (cs : List Char) : Bool :=
  let cs := dropSign cs
  let whole := cs.takeWhile Char.isDigit
  let rest := cs.drop whole.length
  let (part, rest) := match rest with
    | '.' :: rest => (rest.takeWhile Char.isDigit, rest.dropWhile Char.isDigit)
    | rest => ([], rest)
  let exponentOk := match rest with
    | [] => true
    | e :: digits =>
      (e = 'e' || e = 'E') && !(dropSign digits).isEmpty && (dropSign digits).all Char.isDigit
  (!whole.isEmpty || !part.isEmpty) && exponentOk
where
  dropSign : List Char → List Char
    | '+' :: cs => cs
    | '-' :: cs => cs
    | cs => cs

/-- Whether the character can be part of a decimal fraction. No fraction has an underscore, but one
is read as a part of it, so that it makes the fraction invalid. -/
def inFraction (c : Char) : Bool :=
  c.isDigit || c = 'e' || c = 'E' || c = '.' || c = '+' || c = '-' || c = '_'

/-- Whether the next number has to be a fraction: after its sign it has more characters of a
fraction than of a whole number. -/
def isFractionNext (cs : List Char) : Bool :=
  let unsigned := match cs with
    | '+' :: cs => cs
    | '-' :: cs => cs
    | cs => cs
  (unsigned.takeWhile inNumber).length < (unsigned.takeWhile inFraction).length

/-- Reads a decimal fraction, an infinity or the word for no number. -/
def fraction : Reader Unit := do
  for word in words do
    if ← acceptWord word then return
  if !isFraction (← takeWhile inFraction) then failure
where
  words : List String := ["inf", "+inf", "-inf", "NaN", "+NaN", "-NaN"]

/-- Reads a number of any kind and forgets it. What fails as a whole number, because it is too large
or has an exponent, can still be a fraction. -/
def anyNumber : Reader Unit := do
  if isFractionNext (← get) then fraction else signedNumber <|> fraction

/-! ## Texts -/

/-- Reads the character whose code point the next `n` hexadecimal digits are. -/
def charOfDigits (n : Nat) : Reader Char := do
  let digits := (← get).take n
  if digits.length < n then failure
  modify (·.drop n)
  (ofDigits? 16 digits >>= charOfCode? : Option _)

/-- Reads an escape whose backslash has been read. -/
def escape : Reader Char := do
  match ← get with
  | [] => failure
  | c :: cs =>
    set cs
    match c with
    | '\x27' => return '\x27'
    | '"' => return '"'
    | '\\' => return '\\'
    | 'n' => return '\n'
    | 'r' => return '\r'
    | 't' => return '\t'
    | '0' => return '\x00'
    | 'x' => charOfDigits 2
    | 'u' =>
      expect "\x7b"
      let digits := (← get).takeWhile (· != '\x7d')
      if 6 < digits.length then failure
      let c ← charOfDigits digits.length
      expect "\x7d"
      return c
    | _ => failure

/-- The text before its closing quote and the text after that, where `done` are the characters read
so far in reverse. A quote after a backslash does not close the text. -/
def upToQuote? : List Char → (done : List Char) → Option (List Char × List Char)
  | [], _ => none
  | '"' :: cs, done => some (done.reverse, cs)
  | '\\' :: c :: cs, done => upToQuote? cs (c :: '\\' :: done)
  | c :: cs, done => upToQuote? cs (c :: done)

/-- Reads characters and escapes to the end, after the characters `done`, which are in reverse. -/
def unescape : (fuel : Nat) → (done : List Char) → Reader String
  | 0, _ => failure
  | fuel + 1, done => do
    match ← get with
    | [] => return String.ofList done.reverse
    | '\\' :: cs =>
      set cs
      let c ← escape
      unescape fuel (c :: done)
    | c :: cs =>
      set cs
      unescape fuel (c :: done)

/-- The text before the first place where `mark` occurs, and the text after it. -/
def upTo? (mark : List Char) : List Char → (done : List Char) → Option (List Char × List Char)
  | cs, done =>
    if mark.isPrefixOf cs then some (done.reverse, cs.drop mark.length)
    else
      match cs with
      | [] => none
      | c :: cs => upTo? mark cs (c :: done)

/-- Reads a text: between quotes with escapes, or after `r` and number signs without them. -/
def text : Reader String := do
  if ← accept "\"" then
    let (taken, rest) ← (upToQuote? (← get) [] : Option _)
    set rest
    let (text, _) ← ((unescape (taken.length + 1) []).run taken : Option _)
    return text
  else if ← accept "r" then
    let hashes ← takeWhile (· = '#')
    expect "\""
    let (taken, rest) ← (upTo? ('"' :: hashes) (← get) [] : Option _)
    set rest
    return String.ofList taken
  else failure

/-- Reads a character between apostrophes and forgets it. -/
def anyChar : Reader Unit := do
  expect "\x27"
  match ← get with
  | '\\' :: cs =>
    set cs
    let _ ← escape
  | c :: cs => if c = '\x27' then failure else set cs
  | [] => failure
  expect "\x27"

/-! ## Collections -/

/-- Reads the elements of a collection up to the sign that closes it. Between two elements there is
a comma, and there may be one after the last. -/
def elements {α : Type} (close : Char) (element : Reader α) :
    (fuel : Nat) → (hadComma : Bool) → (done : List α) → Reader (List α)
  | 0, _, _ => failure
  | fuel + 1, hadComma, done => do
    blank
    match ← get with
    | [] => failure
    | c :: cs =>
      if c = close then
        set cs
        return done.reverse
      else if hadComma then
        let a ← element
        elements close element fuel (← comma) (a :: done)
      else failure

/-- Reads a collection whose opening sign has been read. -/
def collection {α : Type} (rules : Rules) (close : Char) (element : Reader α) : Reader (List α) :=
  elements close element (rules.maxElements + 1) true []

/-- Reads a key, a colon and a value. -/
def pair {α β : Type} (key : Reader α) (value : α → Reader β) : Reader β := do
  let k ← key
  blank
  expect ":"
  blank
  value k

/-- Whether the text after an opening parenthesis is not that of a structure: it does not start with
a name and a colon. -/
def isTuple (cs : List Char) : Option Bool :=
  match name? cs with
  | none => some true
  | some (_, rest) =>
    match dropBlank .blank rest with
    | some (c :: _) => some (c != ':')
    | _ => none

/-- Reads a value of any kind and forgets it, where `inner` reads the value of an option and
`element` the elements of a collection; without the latter no collection may be opened. -/
def valueWith (rules : Rules) (inner : Reader Unit) (element : Option (Reader Unit)) :
    Reader Unit := do
  for word in words do
    if ← acceptWord word then return
  if ← acceptWord "Some" then
    blank
    if ← accept "(" then
      blank
      inner
      let _ ← comma
      expect ")"
    else if rules.extensions.contains .implicitSome then inner
    else failure
  else if ← accept "()" then return
  else if (name? (← get)).isSome then
    let _ ← name
    blank
    if (← peek) = some '(' then parenthesised
  else
    match ← peek with
    | some '(' => parenthesised
    | some '[' =>
      expect "["
      let _ ← collection rules ']' (← (element : Option _))
    | some '\x7b' =>
      expect "\x7b"
      let element ← (element : Option _)
      let _ ← collection rules '\x7d' (pair element fun _ => element)
    | some '"' | some 'r' =>
      let _ ← text
    | some '\x27' => anyChar
    | some c => if c.isDigit || c = '+' || c = '-' || c = '.' then anyNumber else failure
    | none => failure
where
  words : List String := ["true", "false", "None", "inf", "-inf", "NaN"]
  parenthesised : Reader Unit := do
    expect "("
    let element ← (element : Option _)
    let inside ← (dropBlank .blank (← get) : Option _)
    if ← (isTuple inside : Option Bool) then
      let _ ← collection rules ')' element
    else
      let _ ← collection rules ')' (pair element fun _ => element)

/-- Reads a value of any kind that is nested at most `steps` deep, and forgets it. It takes one step
into an option and one into a collection, and another one to each element of the collection. -/
def anyValue (rules : Rules) : (steps : Nat) → Reader Unit
  | 0 => valueWith rules failure none
  | 1 => valueWith rules (anyValue rules 0) (some failure)
  | steps + 2 => valueWith rules (anyValue rules (steps + 1)) (some (anyValue rules steps))

/-- The deepest nesting of a file. -/
def maxSteps : Nat := 128

/-! ## Files -/

/-- Reads the lines that a file may start with to ask for extensions of the format. -/
def extensions (rules : Rules) : (fuel : Nat) → Reader (List Extension)
  | 0 => failure
  | fuel + 1 => do
    blank
    if (← peek) = some '#' then
      for sign in ["#", "!", "[", "enable", "("] do
        expect sign
        blank
      let asked ← collection rules ')' do (Extension.ofName? (← name) : Option _)
      blank
      expect "]"
      if asked.isEmpty then failure
      return asked ++ (← extensions rules fuel)
    else return []

/-- Reads a whole file that holds one value. -/
def file {α : Type} (value : Rules → Reader α) (content : String) : Option α := do
  let rules : Rules := { maxElements := content.length }
  let whole : Reader α := do
    let a ← value { rules with extensions := ← extensions rules (content.length + 1) }
    blank
    if (← peek).isSome then failure
    return a
  let (a, _) ← whole.run content.toList
  return a

end Reader

end ClassLiterals.Settings
