import ClassLiterals.Text.Numeral
import ClassLiterals.Unicode.Plain

/-!
# Quoted text

Text between quotes, with every character escaped that a reader could mistake: the quote itself,
the backslash, controls, marks and everything without a glyph. One line of text stays one line.
-/

namespace ClassLiterals.Text

/-- The characters that stand for `c` between two quotes `quote`. -/
def escape (quote c : Char) : List Char :=
  if c = '\x00' then ['\\', '0']
  else if c = '\t' then ['\\', 't']
  else if c = '\n' then ['\\', 'n']
  else if c = '\r' then ['\\', 'r']
  else if c = '\\' ∨ c = quote then ['\\', c]
  else if Unicode.isPlain c.toNat then [c]
  else "\\u\x7b".toList ++ (hex c.toNat).toList ++ ['\x7d']

/-- The text `s` between double quotes. -/
def quoted (s : String) : String :=
  String.ofList ('"' :: s.toList.flatMap (escape '"') ++ ['"'])

/-- The character `c` between apostrophes. -/
def quotedChar (c : Char) : String :=
  String.ofList ('\x27' :: escape '\x27' c ++ ['\x27'])

end ClassLiterals.Text
