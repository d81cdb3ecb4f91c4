import ClassLiterals.Unicode.Alphabetic
import ClassLiterals.Unicode.Category

/-!
# Characters of names and of quoted text

Names and quoted text follow a newer edition of the character set than patterns do, so the tables
here add what is new in it.

In a name stand alphabetic characters and numbers. In quoted text a character stands for itself
unless a reader could not see it or would see it as part of its neighbour: marks that extend the
character before them, controls, format characters, fillers, blanks other than the space, code
points for private use and code points without a character.
-/

namespace ClassLiterals.Unicode

/-! ## Names -/

/-- The alphabetic characters that the newer edition adds. -/
def newAlphabeticRanges : Ranges :=
  [(0x88F, 0x88F), (0xC5C, 0xC5C), (0xCDC, 0xCDC), (0xA7CE, 0xA7CF), (0xA7D2, 0xA7D2),
   (0xA7D4, 0xA7D4), (0xA7F1, 0xA7F1), (0x10940, 0x10959), (0x10EC5, 0x10EC7), (0x10EFA, 0x10EFB),
   (0x11B60, 0x11B67), (0x11DB0, 0x11DDB), (0x16EA0, 0x16EB8), (0x16EBB, 0x16ED3),
   (0x16FF2, 0x16FF6), (0x187F8, 0x187FF), (0x18D09, 0x18D1E), (0x18D80, 0x18DF2),
   (0x1E6C0, 0x1E6DE), (0x1E6E0, 0x1E6F5), (0x1E6FE, 0x1E6FF), (0x2B73A, 0x2B73F),
   (0x2CEA2, 0x2CEAD), (0x323B0, 0x33479)]

/-- The numbers that the newer edition adds. -/
def newNumberRanges : Ranges :=
  [(0x11DE0, 0x11DE9), (0x16FF4, 0x16FF6)]

/-- Whether the code point `n` is that of an alphabetic character. -/
def isNameLetter (n : Nat) : Bool :=
  isAlphabetic n || newAlphabeticRanges.covers n

/-- Whether the code point `n` is that of a number. -/
def isNameNumber (n : Nat) : Bool :=
  Category.numbers.any (·.contains n) || newNumberRanges.covers n

/-! ## Quoted text -/

/-- The characters with a glyph of their own that the newer edition adds. -/
def newPlainRanges : Ranges :=
  [(0x88F, 0x88F), (0xC5C, 0xC5C), (0xCDC, 0xCDC), (0x20C1, 0x20C1), (0x2B96, 0x2B96),
   (0xA7CE, 0xA7CF), (0xA7D2, 0xA7D2), (0xA7D4, 0xA7D4), (0xA7F1, 0xA7F1), (0xFBC3, 0xFBD2),
   (0xFD90, 0xFD91), (0xFDC8, 0xFDCE), (0x10940, 0x10959), (0x10EC5, 0x10EC7), (0x10ED0, 0x10ED8),
   (0x11B61, 0x11B61), (0x11B65, 0x11B65), (0x11B67, 0x11B67), (0x11DB0, 0x11DDB),
   (0x11DE0, 0x11DE9), (0x16EA0, 0x16EB8), (0x16EBB, 0x16ED3), (0x16FF2, 0x16FF6),
   (0x187F8, 0x187FF), (0x18D09, 0x18D1E), (0x18D80, 0x18DF2), (0x1CCFA, 0x1CCFC),
   (0x1CEBA, 0x1CED0), (0x1CEE0, 0x1CEF0), (0x1E6C0, 0x1E6DE), (0x1E6E0, 0x1E6E2),
   (0x1E6E4, 0x1E6E5), (0x1E6E7, 0x1E6ED), (0x1E6F0, 0x1E6F4), (0x1E6FE, 0x1E6FF),
   (0x1F6D8, 0x1F6D8), (0x1F777, 0x1F77A), (0x1F8D0, 0x1F8D8), (0x1FA54, 0x1FA57),
   (0x1FA8A, 0x1FA8A), (0x1FA8E, 0x1FA8E), (0x1FAC8, 0x1FAC8), (0x1FACD, 0x1FACD),
   (0x1FAEA, 0x1FAEA), (0x1FAEF, 0x1FAEF), (0x1FBFA, 0x1FBFA), (0x2B73A, 0x2B73F),
   (0x2CEA2, 0x2CEAD), (0x323B0, 0x33479)]

/-- Code points outside the mark categories that extend the character before them. The half-width
sound marks of Katakana have a width of their own and do not count. -/
def otherExtendingRanges : Ranges :=
  [(0x9BE, 0x9BE), (0x9D7, 0x9D7), (0xB3E, 0xB3E), (0xB57, 0xB57), (0xBBE, 0xBBE), (0xBD7, 0xBD7),
   (0xCC0, 0xCC0), (0xCC2, 0xCC2), (0xCC7, 0xCC8), (0xCCA, 0xCCB), (0xCD5, 0xCD6), (0xD3E, 0xD3E),
   (0xD57, 0xD57), (0xDCF, 0xDCF), (0xDDF, 0xDDF), (0x1715, 0x1715), (0x1734, 0x1734),
   (0x1B35, 0x1B35), (0x1B3B, 0x1B3B), (0x1B3D, 0x1B3D), (0x1B43, 0x1B44), (0x1BAA, 0x1BAA),
   (0x1BF2, 0x1BF3), (0x200C, 0x200C), (0x302E, 0x302F), (0xA953, 0xA953), (0xA9C0, 0xA9C0),
   (0x111C0, 0x111C0), (0x11235, 0x11235), (0x1133E, 0x1133E), (0x1134D, 0x1134D),
   (0x11357, 0x11357), (0x113B8, 0x113B8), (0x113C2, 0x113C2), (0x113C5, 0x113C5),
   (0x113C7, 0x113C9), (0x113CF, 0x113CF), (0x114B0, 0x114B0), (0x114BD, 0x114BD),
   (0x115AF, 0x115AF), (0x116B6, 0x116B6), (0x11930, 0x11930), (0x1193D, 0x1193D),
   (0x11F41, 0x11F41), (0x16FF0, 0x16FF1), (0x1D165, 0x1D166), (0x1D16D, 0x1D172),
   (0xE0020, 0xE007F)]

/-- Whether the code point `n` extends the character before it. -/
def isExtending (n : Nat) : Bool :=
  Category.nonspacingMark.contains n || Category.enclosingMark.contains n ||
    otherExtendingRanges.covers n

/-- Letters that fill a place without showing anything. -/
def fillerRanges : Ranges := [(0x115F, 0x1160), (0x3164, 0x3164), (0xFFA0, 0xFFA0)]

/-- Whether the code point `n` has a glyph of its own or is the space. -/
def isPrintable (n : Nat) : Bool :=
  n == 0x20 || newPlainRanges.covers n ||
    !((Category.others ++ Category.separators).any (·.contains n) || fillerRanges.covers n)

/-- Whether quoted text may hold the code point `n` as it is. -/
def isPlain (n : Nat) : Bool :=
  isPrintable n && !isExtending n

end ClassLiterals.Unicode
