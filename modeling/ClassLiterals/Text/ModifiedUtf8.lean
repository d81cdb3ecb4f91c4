import ClassLiterals.Bytes.Basic

/-!
# Modified UTF-8

The encoding of text in a class file. Text is taken as a sequence of UTF-16 units, and every unit is
encoded by itself in one to three bytes: the zero unit takes two bytes, so that no byte is zero, and
a character beyond the basic plane takes two times three bytes.

Reading never fails. A byte that starts no unit becomes the replacement character, a unit that is
cut off ends the text, and a surrogate without its partner becomes the replacement character.
-/

namespace ClassLiterals.ModifiedUtf8

/-- A UTF-16 unit. -/
abbrev CodeUnit := UInt16

/-- The unit that stands for bytes without a meaning. -/
def replacement : CodeUnit := 0xFFFD

/-! ## Units and characters -/

/-- The first unit of a pair. -/
def isHighSurrogate (u : CodeUnit) : Bool := 0xD800 ≤ u && u < 0xDC00

/-- The second unit of a pair. -/
def isLowSurrogate (u : CodeUnit) : Bool := 0xDC00 ≤ u && u < 0xE000

/-- The units of a character: one in the basic plane, a pair of surrogates beyond it. -/
def unitsOfChar (c : Char) : List CodeUnit :=
  let n := c.toNat
  if n < 0x10000 then [UInt16.ofNat n]
  else
    [UInt16.ofNat (0xD800 + (n - 0x10000) / 0x400), UInt16.ofNat (0xDC00 + (n - 0x10000) % 0x400)]

/-- The character of a pair of surrogates. -/
def charOfPair (high low : CodeUnit) : Char :=
  Char.ofNat (0x10000 + (high.toNat - 0xD800) * 0x400 + (low.toNat - 0xDC00))

/-- The character of a unit that belongs to no pair. A surrogate becomes the replacement
character. -/
def charOfUnit (u : CodeUnit) : Char :=
  if isHighSurrogate u || isLowSurrogate u then Char.ofNat 0xFFFD else Char.ofNat u.toNat

/-- The characters that the units spell. -/
def charsOfUnits (units : List CodeUnit) : List Char :=
  go units []
where
  go : List CodeUnit → List Char → List Char
    | [], done => done.reverse
    | [u], done => (charOfUnit u :: done).reverse
    | u :: v :: rest, done =>
      if isHighSurrogate u && isLowSurrogate v then go rest (charOfPair u v :: done)
      else go (v :: rest) (charOfUnit u :: done)

/-! ## Bytes and units -/

/-- Whether the byte continues a unit. -/
def isContinuation (b : UInt8) : Bool := 0x80 ≤ b && b < 0xC0

/-- The unit of one byte. -/
def unitOfOne (x : UInt8) : CodeUnit := UInt16.ofNat x.toNat

/-- The unit of two bytes. -/
def unitOfTwo (x y : UInt8) : CodeUnit :=
  UInt16.ofNat (x.toNat % 0x20 * 0x40 + y.toNat % 0x40)

/-- The unit of three bytes. -/
def unitOfThree (x y z : UInt8) : CodeUnit :=
  UInt16.ofNat (x.toNat % 0x10 * 0x1000 + y.toNat % 0x40 * 0x40 + z.toNat % 0x40)

/-- The units that the bytes encode, up to a unit that is cut off. -/
def unitsOfBytes (bs : Bytes) : List CodeUnit :=
  go bs []
where
  go : Bytes → List CodeUnit → List CodeUnit
    | [], done => done.reverse
    | x :: rest, done =>
      if x < 0x80 then go rest (unitOfOne x :: done)
      else if x < 0xC0 then go rest (replacement :: done)
      else if x < 0xE0 then
        match rest with
        | [] => done.reverse
        | y :: rest' =>
          if isContinuation y then go rest' (unitOfTwo x y :: done)
          else go (y :: rest') (replacement :: done)
      else if x < 0xF0 then
        match rest with
        | [] => done.reverse
        | [_] => done.reverse
        | y :: z :: rest' =>
          if isContinuation y && isContinuation z then go rest' (unitOfThree x y z :: done)
          else go (y :: z :: rest') (replacement :: done)
      else go rest (replacement :: done)

/-- The bytes of a unit. -/
def bytesOfUnit (u : CodeUnit) : Bytes :=
  let n := u.toNat
  if 0 < n ∧ n < 0x80 then [UInt8.ofNat n]
  else if n < 0x800 then [UInt8.ofNat (0xC0 + n / 0x40), UInt8.ofNat (0x80 + n % 0x40)]
  else
    [UInt8.ofNat (0xE0 + n / 0x1000), UInt8.ofNat (0x80 + n / 0x40 % 0x40),
      UInt8.ofNat (0x80 + n % 0x40)]

/-! ## Text -/

/-- The bytes of a character. -/
def bytesOfChar (c : Char) : Bytes :=
  (unitsOfChar c).flatMap bytesOfUnit

/-- The text that the bytes encode. -/
def decode (bs : Bytes) : String :=
  String.ofList (charsOfUnits (unitsOfBytes bs))

/-- The bytes that encode the text. -/
def encode (text : String) : Bytes :=
  text.toList.flatMap bytesOfChar

/-- The number of bytes that a character takes. -/
def charSize (c : Char) : Nat :=
  if c.toNat = 0 then 2
  else if c.toNat < 0x80 then 1
  else if c.toNat < 0x800 then 2
  else if c.toNat < 0x10000 then 3
  else 6

/-- The number of bytes that a text takes, without writing them. -/
def encodedSize (text : String) : Nat :=
  text.toList.foldl (fun size c => size + charSize c) 0

end ClassLiterals.ModifiedUtf8
