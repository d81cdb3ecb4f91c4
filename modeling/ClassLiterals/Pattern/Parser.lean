import ClassLiterals.Pattern.Shape
import ClassLiterals.Text.Numeral
import ClassLiterals.Unicode.Plain

/-!
# Written patterns

Reading a pattern from its text. Letters stand for themselves; `.`, `[…]`, `\d`, `\w`, `\s` and
`\p\x7b…\x7d` for sets; `^`, `$`, `\A`, `\z`, `\b`, `\B` and their kin for conditions on a place;
`*`, `+`, `?` and counts in braces repeat what stands before them; `|` separates choices, and
parentheses group. Flags such as `(?i)` hold to the end of the group they stand in.

A text that is no pattern is refused, and so is a pattern that nests too deeply. Looking around and
referring back to a group have no place here. What only matters for which match is found is read and
has no effect on matching; it shows in the shape of the pattern alone.
-/

namespace ClassLiterals.Pattern

/-! ## Settings and state -/

/-- The settings that flags change. -/
structure Flags where
  ignoreCase : Bool := false
  /-- `^` and `$` hold at lines. -/
  multiLine : Bool := false
  /-- `.` stands for line ends too. -/
  dotAll : Bool := false
  /-- A carriage return ends a line as well. -/
  anyLineEnd : Bool := false
  /-- Sets hold characters of all scripts. -/
  unicode : Bool := true
  /-- Blanks and comments between the parts of a pattern are skipped. -/
  verbose : Bool := false
  /-- Repetitions prefer fewer rounds, unless a question mark follows. -/
  lazy : Bool := false
  deriving DecidableEq, Repr

/-- What reading depends on: the text that is left, the settings, and the number and the names of
the groups so far. -/
structure State where
  rest : List Char
  flags : Flags := {}
  groups : Nat := 0
  names : List (List Char) := []

/-- A reader of parts of a pattern; `none` is a refusal. -/
abbrev Reader (α : Type) := StateT State Option α

namespace Reader

/-- The text that is left. -/
def rest : Reader (List Char) := return (← get).rest

/-- The settings. -/
def flags : Reader Flags := return (← get).flags

/-- Goes on with another text. -/
def goTo (rest : List Char) : Reader Unit := modify fun s => { s with rest }

/-- Sets the settings. -/
def setFlags (flags : Flags) : Reader Unit := modify fun s => { s with flags }

end Reader

open Reader

/-- The text without the blanks and comments at its start. A comment goes from a number sign to the
end of the line. -/
def dropBlank : List Char → List Char
  | cs => go false cs
where
  go : (comment : Bool) → List Char → List Char
    | _, [] => []
    | true, c :: cs => go (c != '\n') cs
    | false, c :: cs =>
      if Unicode.isBlank c.toNat then go false cs
      else if c = '#' then go true cs
      else c :: cs

/-- The text without what the settings allow to be skipped at its start. -/
def Flags.skip (f : Flags) (cs : List Char) : List Char :=
  if f.verbose then dropBlank cs else cs

/-- Skips what the settings allow to be skipped. -/
def skip : Reader Unit := do goTo ((← flags).skip (← rest))

/-! ## Parts -/

/-- A part of a pattern. -/
structure Part where
  pattern : Pattern
  shape : Shape
  /-- How deep groups, choices, sequences, repetitions and classes nest in it. -/
  depth : Nat := 0
  /-- Whether it can be repeated: settings cannot. -/
  repeatable : Bool := true

/-- The deepest nesting that is read. -/
def maxDepth : Nat := 250

namespace Part

/-- The greatest depth of the parts. -/
def maxOf (parts : List Part) : Nat := parts.foldl (fun d p => max d p.depth) 0

/-- The empty part. -/
def empty : Part := { pattern := .empty, shape := .empty }

/-- The part for a set; `bytes` tells whether it is one of bytes. -/
def ofSet (s : CharSet) (bytes : Bool) : Part :=
  { pattern := .chars s, shape := .ofRanges s.ranges bytes }

/-- The part for a condition. -/
def ofBoundary (b : Boundary) : Part := { pattern := .boundary b, shape := .boundary b }

/-- The parts in sequence. -/
def concat : List Part → Part
  | [] => empty
  | [p] => { p with repeatable := true }
  | ps =>
    { pattern := Pattern.concat (ps.map (·.pattern))
      shape := .concat (ps.map (·.shape))
      depth := maxOf ps + 1 }

/-- The parts as choices. -/
def oneOf : List Part → Part
  | [p] => p
  | ps =>
    { pattern := Pattern.oneOf (ps.map (·.pattern))
      shape := .oneOf (ps.map (·.shape))
      depth := maxOf ps + 1 }

/-- The part in parentheses, with the number of the group if its text is remembered. -/
def group (number : Option Nat) (p : Part) : Part :=
  { p with
    shape := match number with
      | some number => .group number p.shape
      | none => p.shape
    depth := p.depth + 1
    repeatable := true }

/-- The part `least` to `most` times. -/
def times (p : Part) (least : Nat) (most : Option Nat) (eager : Bool) : Option Part :=
  if p.repeatable then
    some
      { pattern := .times least most p.pattern
        shape := .repeated least most eager p.shape
        depth := p.depth + 1 }
  else none

end Part

/-! ## Numbers and escapes -/

/-- The next `n` characters that are not skipped, with the text after them. -/
def nextChars (f : Flags) : (n : Nat) → (done : List Char) → List Char →
    Option (List Char × List Char)
  | 0, done, cs => some (done.reverse, cs)
  | _ + 1, _, [] => none
  | n + 1, done, c :: cs => nextChars f n (c :: done) (f.skip cs)

/-- Collects characters up to a closing brace. -/
def upToBrace (f : Flags) : (fuel : Nat) → (done : List Char) → List Char →
    Option (List Char × List Char)
  | 0, _, _ => none
  | fuel + 1, done, cs =>
    match f.skip cs with
    | [] => none
    | '\x7d' :: cs => some (done.reverse, cs)
    | c :: cs => upToBrace f fuel (c :: done) cs

/-- Reads the digits of a character number, either `digits` of them or any number in braces. -/
def hexEscape (f : Flags) (digits : Nat) (cs : List Char) : Option (Char × Bool × List Char) := do
  match f.skip cs with
  | [] => none
  | '\x7b' :: cs =>
    let (name, cs) ← upToBrace f (cs.length + 1) [] cs
    let c ← Text.charOfCode? (← Text.ofDigits? 16 name)
    return (c, false, f.skip cs)
  | cs =>
    let (number, cs) ← nextChars f digits [] cs
    let c ← Text.charOfCode? (← Text.ofDigits? 16 number)
    return (c, digits = 2, cs)

/-- The text before and after the first place where `mark` occurs. -/
def splitAtMark? (mark : List Char) : List Char → Option (List Char × List Char)
  | [] => none
  | c :: cs =>
    if mark.isPrefixOf (c :: cs) then some ([], (c :: cs).drop mark.length)
    else (splitAtMark? mark cs).map fun (before, after) => (c :: before, after)

/-- The set that a property name stands for, alone or with a value, and whether its complement is
meant. -/
def namedSet? (name : List Char) : Option (CharSet × Bool) :=
  match splitAtMark? ['!', '='] name with
  | some (name, value) => (Unicode.Property.ofValue? name value).map (.ofProperties ·, true)
  | none =>
    let properties := match splitAtMark? [':'] name <|> splitAtMark? ['='] name with
      | some (name, value) => Unicode.Property.ofValue? name value
      | none => Unicode.Property.ofName? name
    properties.map (.ofProperties ·, false)

/-- The complement of the set, if so wanted. A complement holds characters of all scripts, so it
needs the setting for that. -/
def Flags.negate (f : Flags) (negated : Bool) (s : CharSet) : Option CharSet :=
  if negated then if f.unicode then some s.compl else none else some s

/-- The set closed under case, if the settings say so. -/
def Flags.fold (f : Flags) (s : CharSet) : CharSet :=
  if f.ignoreCase then if f.unicode then .folded s else .asciiFolded s else s

/-- The sets that go by one letter. -/
def classLetter? (f : Flags) (letter : Char) : Option CharSet :=
  match letter with
  | 'd' => some (if f.unicode then .property .digit else .ofRanges [('0', '9')])
  | 's' =>
    some (if f.unicode then .property .blank
      else .ofRanges [('\t', '\r'), (' ', ' ')])
  | 'w' =>
    some (if f.unicode then .property .word
      else .ofRanges [('0', '9'), ('A', 'Z'), ('_', '_'), ('a', 'z')])
  | _ => none

/-- What an escape stands for. -/
inductive Atom where
  /-- A character; `byte` says that it was written as the number of a byte. -/
  | literal (c : Char) (byte : Bool)
  | boundary (b : Boundary)
  | set (s : CharSet)

/-- The characters with a meaning of their own in patterns. -/
def isMeta (c : Char) : Bool :=
  "\\.+*?()|[]\x7b\x7d^$#&-~".toList.contains c

/-- Whether a backslash before the character only marks it. -/
def isMarkable (c : Char) : Bool :=
  isMeta c || (c.toNat < 0x80 && !c.isAlphanum && c != '<' && c != '>')

/-- The words in braces after `\b`. -/
def edgeName? (w : WordChars) (name : List Char) : Option Boundary :=
  if name = "start".toList then some (.wordStart w)
  else if name = "end".toList then some (.wordEnd w)
  else if name = "start-half".toList then some (.noWordBefore w)
  else if name = "end-half".toList then some (.noWordAfter w)
  else none

/-- Reads what follows `\b`: a word in braces, or nothing that belongs to it. -/
def wordEdge (f : Flags) (w : WordChars) (cs : List Char) : Option (Boundary × List Char) :=
  match cs with
  | '\x7b' :: inside =>
    match f.skip inside with
    | [] => none
    | c :: _ =>
      if isNameChar c then do
        let (name, after) ← upToBrace f (inside.length + 1) [] inside
        if name.all isNameChar then return (← edgeName? w name, after) else none
      else some (.wordEdge w, cs)
  | cs => some (.wordEdge w, cs)
where
  isNameChar (c : Char) : Bool := c.isAlpha || c = '-'

/-- Reads an escape whose backslash has been read. -/
def escape (f : Flags) : List Char → Option (Atom × List Char)
  | [] => none
  | c :: cs =>
    let words := if f.unicode then WordChars.unicode else .ascii
    if isMarkable c then some (.literal c false, cs)
    else match c with
    | 'x' => (hexEscape f 2 cs).map fun (c, byte, cs) => (.literal c byte, cs)
    | 'u' => (hexEscape f 4 cs).map fun (c, byte, cs) => (.literal c byte, cs)
    | 'U' => (hexEscape f 8 cs).map fun (c, byte, cs) => (.literal c byte, cs)
    | 'p' => property false cs
    | 'P' => property true cs
    | 'd' | 's' | 'w' => (classLetter? f c).map fun s => (.set s, cs)
    | 'D' | 'S' | 'W' => do
      let s ← f.negate true (← classLetter? f c.toLower)
      return (.set s, cs)
    | 'a' => some (.literal '\x07' false, cs)
    | 'f' => some (.literal '\x0c' false, cs)
    | 't' => some (.literal '\t' false, cs)
    | 'n' => some (.literal '\n' false, cs)
    | 'r' => some (.literal '\r' false, cs)
    | 'v' => some (.literal '\x0b' false, cs)
    | 'A' => some (.boundary .textStart, cs)
    | 'z' => some (.boundary .textEnd, cs)
    | 'b' => (wordEdge f words cs).map fun (b, cs) => (.boundary b, cs)
    | 'B' => some (.boundary (.noWordEdge words), cs)
    | '<' => some (.boundary (.wordStart words), cs)
    | '>' => some (.boundary (.wordEnd words), cs)
    | _ => none
where
  property (negated : Bool) (cs : List Char) : Option (Atom × List Char) := do
    let (name, cs) ← match f.skip cs with
      | [] => none
      | '\x7b' :: cs => upToBrace f (cs.length + 1) [] cs
      | '\\' :: _ => none
      | c :: cs => some ([c], cs)
    let (s, other) ← namedSet? name
    if f.unicode then return (.set (← f.negate (negated != other) (f.fold s)), cs) else none

/-! ## Bracketed classes -/

/-- A set in the making, with its depth of nesting. -/
structure ClassPart where
  set : CharSet
  depth : Nat := 0

/-- The operations between the parts of a class. -/
inductive ClassOp where
  | inter
  | diff
  | symmDiff

namespace ClassPart

/-- The union of the parts. -/
def union : List ClassPart → ClassPart
  | [] => { set := .empty }
  | [p] => p
  | p :: ps =>
    { set := ps.foldl (fun s q => .union s q.set) p.set
      depth := ps.foldl (fun d q => max d q.depth) p.depth + 1 }

/-- The part after an operation, joined with what stands before the operation. -/
def join (f : Flags) (before : Option (ClassPart × ClassOp)) (p : ClassPart) : ClassPart :=
  match before with
  | none => p
  | some (q, op) =>
    let a := f.fold q.set
    let b := f.fold p.set
    { set := match op with
        | .inter => .inter a b
        | .diff => .diff a b
        | .symmDiff => .symmDiff a b
      depth := max q.depth p.depth + 1 }

end ClassPart

/-- The sets with a name between colons. -/
def colonClass? (name : List Char) : Option CharSet :=
  (table.find? fun entry => entry.1.toList == name).map fun entry => .ofRanges entry.2
where
  table : List (String × List (Char × Char)) :=
    [("alnum", [('0', '9'), ('A', 'Z'), ('a', 'z')]),
     ("alpha", [('A', 'Z'), ('a', 'z')]),
     ("ascii", [('\x00', '\x7f')]),
     ("blank", [('\t', '\t'), (' ', ' ')]),
     ("cntrl", [('\x00', '\x1f'), ('\x7f', '\x7f')]),
     ("digit", [('0', '9')]),
     ("graph", [('!', '~')]),
     ("lower", [('a', 'z')]),
     ("print", [(' ', '~')]),
     ("punct", [('!', '/'), (':', '@'), ('[', '\x60'), ('\x7b', '~')]),
     ("space", [('\t', '\r'), (' ', ' ')]),
     ("upper", [('A', 'Z')]),
     ("word", [('0', '9'), ('A', 'Z'), ('_', '_'), ('a', 'z')]),
     ("xdigit", [('0', '9'), ('A', 'F'), ('a', 'f')])]

/-- A name between colons with its closing bracket, whose opening bracket has been read: whether it
is negated, the set, and the text after it. -/
def colonName? (cs : List Char) : Option (Bool × CharSet × List Char) := do
  let (negated, cs) ← match cs with
    | ':' :: '^' :: cs => some (true, cs)
    | ':' :: cs => some (false, cs)
    | _ => none
  let name := cs.takeWhile (· != ':')
  match cs.drop name.length with
  | ':' :: ']' :: rest => return (negated, ← colonClass? name, rest)
  | _ => none

/-- The set of a character in a class. Only one that is a character of its own in the settings
counts. -/
def Flags.classChar? (f : Flags) (c : Char) : Option CharSet :=
  if f.unicode || c.toNat < 0x80 then some (.single c) else none

/-- Reads one end of a range, or what else a class may hold besides brackets and operations. -/
def classAtom (f : Flags) : List Char → Option (Atom × List Char)
  | [] => none
  | '\\' :: cs => escape f cs
  | c :: cs => some (.literal c false, cs)

/-- The character that decides whether a hyphen makes a range, in the text after the hyphen. Where
blanks and comments are skipped, it is the first character behind blanks and behind the sign that
starts a comment, even if it is a part of that comment. -/
def Flags.peekAfter (f : Flags) (cs : List Char) : Option Char :=
  if f.verbose then go false cs <|> cs.head? else cs.head?
where
  go : (comment : Bool) → List Char → Option Char
    | _, [] => none
    | comment, c :: cs =>
      if Unicode.isBlank c.toNat then go comment cs
      else if !comment && c = '#' then go true cs
      else some c

/-- Reads a character, a set or a range in a class. -/
def classRange (f : Flags) (cs : List Char) : Option (CharSet × List Char) := do
  let (first, cs) ← classAtom f cs
  let cs := f.skip cs
  match cs with
  | [] => none
  | '-' :: after =>
    if [some ']', some '-'].contains (f.peekAfter after) then return (← single first, cs)
    else
      let (last, cs) ← classAtom f (f.skip after)
      match first, last with
      | .literal a _, .literal b _ =>
        let _ ← f.classChar? a
        let _ ← f.classChar? b
        if a.toNat ≤ b.toNat then return (.range a.toNat b.toNat, cs) else none
      | _, _ => none
  | _ => return (← single first, cs)
where
  single : Atom → Option CharSet
    | .literal c _ => f.classChar? c
    | .set s => some s
    | .boundary _ => none

/-- Takes the hyphens at the start of a class, which stand for themselves, and a closing bracket in
their stead if there are none. -/
def classStart (f : Flags) : (fuel : Nat) → (done : List ClassPart) → List Char →
    Option (List ClassPart × List Char)
  | 0, _, _ => none
  | fuel + 1, done, cs =>
    match cs with
    | [] => none
    | '-' :: cs => classStart f fuel ({ set := .single '-' } :: done) (f.skip cs)
    | ']' :: rest =>
      if done.isEmpty then
        match f.skip rest with
        | [] => none
        | rest => some ([{ set := .single ']' }], rest)
      else some (done, cs)
    | cs => some (done, cs)

mutual

/-- Reads a class whose opening bracket has been read. -/
def bracketed (f : Flags) : (fuel : Nat) → List Char → Option (ClassPart × List Char)
  | 0, _ => none
  | fuel + 1, cs => do
    let (negated, cs) := match f.skip cs with
      | '^' :: cs => (true, f.skip cs)
      | cs => (false, cs)
    let (parts, cs) ← classStart f (cs.length + 1) [] cs
    let (inside, cs) ← classParts f fuel none parts cs
    let set ← f.negate negated (f.fold inside.set)
    return ({ set, depth := inside.depth + 1 }, cs)

/-- Reads the rest of a class up to its closing bracket. `before` is what stands before the last
operation, and `done` what has been read since. -/
def classParts (f : Flags) : (fuel : Nat) → (before : Option (ClassPart × ClassOp)) →
    (done : List ClassPart) → List Char → Option (ClassPart × List Char)
  | 0, _, _, _ => none
  | fuel + 1, before, done, cs =>
    let operation (op : ClassOp) (cs : List Char) :=
      classParts f fuel (some (.join f before (.union done.reverse), op)) [] cs
    match f.skip cs with
    | [] => none
    | '[' :: cs =>
      match colonName? cs with
      | some (negated, s, cs) => do
        let set ← f.negate negated (f.fold s)
        classParts f fuel before ({ set } :: done) cs
      | none => do
        let (nested, cs) ← bracketed f fuel cs
        classParts f fuel before (nested :: done) cs
    | ']' :: cs => some (.join f before (.union done.reverse), cs)
    | '&' :: '&' :: cs => operation .inter cs
    | '-' :: '-' :: cs => operation .diff cs
    | '~' :: '~' :: cs => operation .symmDiff cs
    | cs => do
      let (set, cs) ← classRange f cs
      classParts f fuel before ({ set } :: done) cs

end

/-! ## Repetition -/

/-- Reads a decimal number, with blanks around it. -/
def count (f : Flags) (cs : List Char) : Option Nat × List Char :=
  let cs := cs.dropWhile fun c => Unicode.isBlank c.toNat
  let (digits, cs) := collect (cs.length + 1) [] cs
  let cs := trail (cs.length + 1) cs
  (Text.ofDigits? 10 digits, cs)
where
  collect : (fuel : Nat) → (done : List Char) → List Char → List Char × List Char
    | 0, done, cs => (done.reverse, cs)
    | fuel + 1, done, cs =>
      match cs with
      | c :: rest =>
        if c.isDigit then collect fuel (c :: done) (f.skip rest) else (done.reverse, cs)
      | [] => (done.reverse, [])
  trail : (fuel : Nat) → List Char → List Char
    | 0, cs => cs
    | fuel + 1, cs =>
      match cs with
      | c :: rest => if Unicode.isBlank c.toNat then trail fuel (f.skip rest) else cs
      | [] => []

/-- The largest count that is read. -/
def maxCount : Nat := 0xFFFFFFFF

/-- Reads the counts in braces, whose opening brace has been read: the least and the most number of
times. -/
def counts (f : Flags) (cs : List Char) : Option ((Nat × Option Nat) × List Char) := do
  match f.skip cs with
  | [] => none
  | cs =>
    let (least, cs) := count f cs
    let least ← least
    let (most, cs) ← match cs with
      | ',' :: cs =>
        match f.skip cs with
        | '\x7d' :: cs => some (none, '\x7d' :: cs)
        | cs =>
          let (most, cs) := count f cs
          most.map fun most => (some most, cs)
      | cs => some (some least, cs)
    match cs with
    | '\x7d' :: cs =>
      if least ≤ most.getD least ∧ least ≤ maxCount ∧ most.getD 0 ≤ maxCount then
        return ((least, most), f.skip cs)
      else none
    | _ => none

/-- Whether a repetition prefers more rounds, and the text without the question mark that may follow
it and turns its preference around. -/
def eagerness (f : Flags) : List Char → Bool × List Char
  | '?' :: cs => (f.lazy, cs)
  | cs => (!f.lazy, cs)

/-! ## Groups and flags -/

/-- Reads flags up to a colon or a closing parenthesis. `seen` holds the flags so far, and `on`
tells whether the next ones are set or unset. -/
def readFlags : (seen : List Char) → (on : Bool) → Flags → List Char → Option (Flags × List Char)
  | _, _, _, [] => none
  | seen, on, f, c :: cs =>
    if c = ':' ∨ c = ')' then
      if seen.head? = some '-' then none else some (f, c :: cs)
    else if seen.contains c then none
    else match c with
    | '-' => readFlags ('-' :: seen) false f cs
    | 'i' => readFlags (c :: seen) on { f with ignoreCase := on } cs
    | 'm' => readFlags (c :: seen) on { f with multiLine := on } cs
    | 's' => readFlags (c :: seen) on { f with dotAll := on } cs
    | 'R' => readFlags (c :: seen) on { f with anyLineEnd := on } cs
    | 'u' => readFlags (c :: seen) on { f with unicode := on } cs
    | 'x' => readFlags (c :: seen) on { f with verbose := on } cs
    | 'U' => readFlags (c :: seen) on { f with lazy := on } cs
    | _ => none

/-- Whether the character may stand in the name of a group. -/
def isNameChar (first : Bool) (c : Char) : Bool :=
  let n := c.toNat
  let letter := c = '_' || Unicode.isNameLetter n
  if first then letter
  else letter || c = '.' || c = '[' || c = ']' || Unicode.isNameNumber n

/-- Reads the name of a group and the bracket after it. No two groups have the same name. -/
def groupName (cs : List Char) : Reader Unit := do
  let name := cs.takeWhile (· != '>')
  match name, cs.drop name.length with
  | first :: others, '>' :: rest =>
    if isNameChar true first && others.all (isNameChar false) && !(← get).names.contains name then
      modify fun s => { s with rest, names := name :: s.names }
    else failure
  | _, _ => failure

/-- How a parenthesis goes on. -/
inductive Opening where
  /-- A group follows, with its number if its text is remembered. -/
  | group (number : Option Nat)
  /-- The parenthesis was closed after settings for what follows it. -/
  | settings

/-- The number of the next group whose text is remembered. -/
def nextGroup : Reader Opening := do
  let s ← get
  set { s with groups := s.groups + 1 }
  return .group (some (s.groups + 1))

/-- Reads what makes a parenthesis special. -/
def opening : Reader Opening := do
  skip
  match ← rest with
  | '?' :: '=' :: _ | '?' :: '!' :: _ | '?' :: '<' :: '=' :: _ | '?' :: '<' :: '!' :: _ => failure
  | '?' :: 'P' :: '<' :: cs | '?' :: '<' :: cs =>
    groupName cs
    nextGroup
  | '?' :: cs =>
    let (f, after) ← (readFlags [] true (← flags) cs : Option _)
    match after with
    | ')' :: after =>
      if cs.head? = some ')' then failure
      setFlags f
      goTo after
      return .settings
    | _ :: after =>
      setFlags f
      goTo after
      return .group none
    | [] => failure
  | _ => nextGroup

/-! ## Patterns -/

/-- The part for one character. -/
def literal (f : Flags) (c : Char) (byte : Bool) : Option Part :=
  if byte && !f.unicode && 0x80 ≤ c.toNat then none
  else
    some (.ofSet (f.fold (.single c)) (!f.unicode))

/-- The set that a point stands for. -/
def dot (f : Flags) : Option CharSet :=
  if !f.unicode then none
  else if f.dotAll then some (.compl .empty)
  else if f.anyLineEnd then some (.compl (.ofRanges [('\n', '\n'), ('\r', '\r')]))
  else some (.compl (.single '\n'))

/-- The condition that `^` stands for. -/
def caret (f : Flags) : Boundary :=
  if f.multiLine then if f.anyLineEnd then .anyLineStart else .lineStart else .textStart

/-- The condition that `$` stands for. -/
def dollar (f : Flags) : Boundary :=
  if f.multiLine then if f.anyLineEnd then .anyLineEnd else .lineEnd else .textEnd

/-- Reads a part that is no group, no class and no repetition. -/
def primitive : Reader Part := do
  let f ← flags
  match ← rest with
  | [] => failure
  | '\\' :: cs =>
    let (atom, cs) ← (escape f cs : Option _)
    goTo cs
    match atom with
    | .literal c byte => literal f c byte
    | .boundary b => return .ofBoundary b
    | .set s => return .ofSet s (!f.unicode)
  | c :: cs =>
    goTo cs
    match c with
    | '.' => return .ofSet (← (dot f : Option _)) (!f.unicode)
    | '^' => return .ofBoundary (caret f)
    | '$' => return .ofBoundary (dollar f)
    | c => literal f c false

/-- Reads choices up to a closing parenthesis or the end. `level` is the number of groups around,
`choices` holds the choices before the last bar and `done` the parts since, both in reverse. -/
def choicesFrom : (fuel : Nat) → (level : Nat) → (choices done : List Part) → Reader Part
  | 0, _, _, _ => failure
  | fuel + 1, level, choices, done => do
    skip
    let again (least : Nat) (most : Option Nat) (cs : List Char) : Reader Part :=
      match done with
      | [] => failure
      | p :: done => do
        let (eager, cs) := eagerness (← flags) cs
        let part ← (p.times least most eager : Option Part)
        goTo cs
        choicesFrom fuel level choices (part :: done)
    match ← rest with
    | [] | ')' :: _ => return .oneOf (.concat done.reverse :: choices).reverse
    | '|' :: cs =>
      goTo cs
      choicesFrom fuel level (.concat done.reverse :: choices) []
    | '(' :: cs =>
      goTo cs
      let outer ← flags
      match ← opening with
      | .settings =>
        choicesFrom fuel level choices ({ Part.empty with repeatable := false } :: done)
      | .group number =>
        if maxDepth ≤ level then failure
        let inner ← choicesFrom fuel (level + 1) [] []
        match ← rest with
        | ')' :: cs =>
          goTo cs
          setFlags outer
          choicesFrom fuel level choices (inner.group number :: done)
        | _ => failure
    | '[' :: cs =>
      let f ← flags
      let (c, cs) ← (bracketed f (2 * cs.length + 2) cs : Option _)
      goTo cs
      let part := { Part.ofSet c.set (!f.unicode) with depth := c.depth }
      choicesFrom fuel level choices (part :: done)
    | '*' :: cs => again 0 none cs
    | '+' :: cs => again 1 none cs
    | '?' :: cs => again 0 (some 1) cs
    | '\x7b' :: cs =>
      let ((least, most), cs) ← (counts (← flags) cs : Option _)
      again least most cs
    | _ =>
      let part ← primitive
      choicesFrom fuel level choices (part :: done)

/-- The part that a text describes. -/
def Part.parse? (text : String) : Option Part := do
  let chars := text.toList
  let (part, s) ← (choicesFrom (chars.length + 1) 0 [] []).run { rest := chars }
  if s.rest.isEmpty && part.depth ≤ maxDepth then return part else none

/-- The pattern that a text describes. -/
def parse? (text : String) : Option Pattern := (Part.parse? text).map (·.pattern)

end ClassLiterals.Pattern
