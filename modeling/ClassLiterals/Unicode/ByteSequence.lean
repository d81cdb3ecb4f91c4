import ClassLiterals.Unicode.Ranges

/-!
# Byte sequences of ranges

A range of code points, written in UTF-8, is the union of few sequences of byte ranges: the
characters of a sequence are exactly those whose bytes lie in its ranges, one by one. A range is cut
where the number of bytes changes, around the surrogates, and wherever the last bytes of its ends do
not run over all their values.
-/

namespace ClassLiterals.Unicode

/-- Bytes from a first to a last one. -/
abbrev ByteRange := Nat × Nat

/-- The bytes of a code point in UTF-8. -/
def utf8Bytes (n : Nat) : List Nat :=
  if n < 0x80 then [n]
  else if n < 0x800 then [0xC0 + n / 0x40, 0x80 + n % 0x40]
  else if n < 0x10000 then [0xE0 + n / 0x1000, 0x80 + n / 0x40 % 0x40, 0x80 + n % 0x40]
  else
    [0xF0 + n / 0x40000, 0x80 + n / 0x1000 % 0x40, 0x80 + n / 0x40 % 0x40, 0x80 + n % 0x40]

/-- Where to cut the code points from `first` to `last` so that their last `bytes` bytes run over
all their values, if the bytes before them differ. The first part ends there. -/
def unevenCut? (bytes first last : Nat) : Option Nat :=
  let block := Nat.pow 0x40 bytes
  if first / block = last / block then none
  else if first % block ≠ 0 then some (first / block * block + block - 1)
  else if last % block ≠ block - 1 then some (last / block * block - 1)
  else none

/-- Where to cut the code points from `first` to `last`, if they are no single sequence. The first
part ends there. -/
def cut? (first last : Nat) : Option Nat :=
  [0x7F, 0x7FF, 0xFFFF].find? (fun most => first ≤ most && most < last) <|>
    if last ≤ 0x7F then none else [1, 2, 3].findSome? (unevenCut? · first last)

/-- The sequences of the code points from `first` to `last`, in ascending order. -/
def byteSequences (first last : Nat) : List (List ByteRange) :=
  if first ≤ 0xD7FF ∧ 0xE000 ≤ last then
    byteSequences first 0xD7FF ++ byteSequences 0xE000 last
  else
    match cut? first last with
    | some most =>
      if first ≤ most ∧ most < last then
        byteSequences first most ++ byteSequences (most + 1) last
      else []
    | none => [(utf8Bytes first).zip (utf8Bytes last)]
termination_by last - first

end ClassLiterals.Unicode
