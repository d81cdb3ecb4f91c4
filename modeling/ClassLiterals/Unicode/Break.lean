import ClassLiterals.Unicode.BinaryProperty

/-!
# Boundaries of characters, words and sentences

The classes of code points by which a text is cut into what a reader sees as characters, into words
and into sentences.
-/

namespace ClassLiterals.Unicode

/-- The number of Hangul syllables that differ in their last consonant only, with the one that has
none. -/
def syllableStep : Nat := 28

/-- The number of Hangul syllables without a last consonant. -/
def openSyllables : Nat := 399

/-- The first Hangul syllable. -/
def firstSyllable : Nat := 0xAC00

/-- The classes by which a text is cut into what a reader sees as characters. -/
def characterBreaks : Array NamedRanges := #[
  ⟨["cr"], [(0xD, 0xD)]⟩,
  ⟨["cn", "control"],
    .adjust [Category.controlRanges]
      [(0xAD, 0xAD), (0x61C, 0x61C), (0x180E, 0x180E), (0x200B, 0x200B), (0x200E, 0x200F),
       (0x2028, 0x202E), (0x2060, 0x206F), (0xFEFF, 0xFEFF), (0xFFF0, 0xFFFB), (0x13430, 0x1343F),
       (0x1BCA0, 0x1BCA3), (0x1D173, 0x1D17A), (0xE0000, 0xE001F), (0xE0080, 0xE00FF),
       (0xE01F0, 0xE0FFF)]
      [(0xA, 0xA), (0xD, 0xD)]⟩,
  ⟨["ex", "extend"], .adjust [extendingRanges] [(0x1F3FB, 0x1F3FF)] []⟩,
  ⟨["l"], [(0x1100, 0x115F), (0xA960, 0xA97C)]⟩,
  ⟨["lf"], [(0xA, 0xA)]⟩,
  ⟨["lv"],
    (List.range openSyllables).map fun i =>
      (firstSyllable + syllableStep * i, firstSyllable + syllableStep * i)⟩,
  ⟨["lvt"],
    (List.range openSyllables).map fun i =>
      (firstSyllable + syllableStep * i + 1, firstSyllable + syllableStep * (i + 1) - 1)⟩,
  ⟨["pp", "prepend"],
    [(0x600, 0x605), (0x6DD, 0x6DD), (0x70F, 0x70F), (0x890, 0x891), (0x8E2, 0x8E2), (0xD4E, 0xD4E),
     (0x110BD, 0x110BD), (0x110CD, 0x110CD), (0x111C2, 0x111C3), (0x113D1, 0x113D1),
     (0x1193F, 0x1193F), (0x11941, 0x11941), (0x11A3A, 0x11A3A), (0x11A84, 0x11A89),
     (0x11D46, 0x11D46), (0x11F02, 0x11F02)]⟩,
  ⟨["regionalindicator", "ri"], [(0x1F1E6, 0x1F1FF)]⟩,
  ⟨["sm", "spacingmark"],
    .adjust [Category.spacingMarkRanges]
      [(0xE33, 0xE33), (0xEB3, 0xEB3)]
      [(0x9BE, 0x9BE), (0x9D7, 0x9D7), (0xB3E, 0xB3E), (0xB57, 0xB57), (0xBBE, 0xBBE),
       (0xBD7, 0xBD7), (0xCC0, 0xCC0), (0xCC2, 0xCC2), (0xCC7, 0xCC8), (0xCCA, 0xCCB),
       (0xCD5, 0xCD6), (0xD3E, 0xD3E), (0xD57, 0xD57), (0xDCF, 0xDCF), (0xDDF, 0xDDF),
       (0x102B, 0x102C), (0x1038, 0x1038), (0x1062, 0x1064), (0x1067, 0x106D), (0x1083, 0x1083),
       (0x1087, 0x108C), (0x108F, 0x108F), (0x109A, 0x109C), (0x1715, 0x1715), (0x1734, 0x1734),
       (0x1A61, 0x1A61), (0x1A63, 0x1A64), (0x1B35, 0x1B35), (0x1B3B, 0x1B3B), (0x1B3D, 0x1B3D),
       (0x1B43, 0x1B44), (0x1BAA, 0x1BAA), (0x1BF2, 0x1BF3), (0x302E, 0x302F), (0xA953, 0xA953),
       (0xA9C0, 0xA9C0), (0xAA7B, 0xAA7B), (0xAA7D, 0xAA7D), (0x111C0, 0x111C0), (0x11235, 0x11235),
       (0x1133E, 0x1133E), (0x1134D, 0x1134D), (0x11357, 0x11357), (0x113B8, 0x113B8),
       (0x113C2, 0x113C2), (0x113C5, 0x113C5), (0x113C7, 0x113C9), (0x113CF, 0x113CF),
       (0x114B0, 0x114B0), (0x114BD, 0x114BD), (0x115AF, 0x115AF), (0x116B6, 0x116B6),
       (0x11720, 0x11721), (0x11930, 0x11930), (0x1193D, 0x1193D), (0x11F41, 0x11F41),
       (0x16FF0, 0x16FF1), (0x1D165, 0x1D166), (0x1D16D, 0x1D172)]⟩,
  ⟨["t"], [(0x11A8, 0x11FF), (0xD7CB, 0xD7FB)]⟩,
  ⟨["v"], [(0x1160, 0x11A7), (0xD7B0, 0xD7C6), (0x16D63, 0x16D63), (0x16D67, 0x16D6A)]⟩,
  ⟨["zwj"], [(0x200D, 0x200D)]⟩]

/-- The classes by which a text is cut into words. -/
def wordBreaks : Array NamedRanges := #[
  ⟨["aletter", "le"],
    .adjust [identifierStartRanges, uppercaseRanges]
      [(0x2C2, 0x2C5), (0x2D2, 0x2D7), (0x2DE, 0x2DF), (0x2E5, 0x2EB), (0x2ED, 0x2ED),
       (0x2EF, 0x2FF), (0x55A, 0x55C), (0x55E, 0x55E), (0x58A, 0x58A), (0x5F3, 0x5F3),
       (0x70F, 0x70F), (0x24D0, 0x24E9), (0x2E2F, 0x2E2F), (0xA708, 0xA716), (0xA720, 0xA721),
       (0xA789, 0xA78A), (0xAB5B, 0xAB5B)]
      [(0x5D0, 0x5EA), (0x5EF, 0x5F2), (0xE01, 0xE30), (0xE32, 0xE33), (0xE40, 0xE46),
       (0xE81, 0xE82), (0xE84, 0xE84), (0xE86, 0xE8A), (0xE8C, 0xEA3), (0xEA5, 0xEA5),
       (0xEA7, 0xEB0), (0xEB2, 0xEB3), (0xEBD, 0xEBD), (0xEC0, 0xEC4), (0xEC6, 0xEC6),
       (0xEDC, 0xEDF), (0x1000, 0x102A), (0x103F, 0x103F), (0x1050, 0x1055), (0x105A, 0x105D),
       (0x1061, 0x1061), (0x1065, 0x1066), (0x106E, 0x1070), (0x1075, 0x1081), (0x108E, 0x108E),
       (0x1780, 0x17B3), (0x17D7, 0x17D7), (0x17DC, 0x17DC), (0x1885, 0x1886), (0x1950, 0x196D),
       (0x1970, 0x1974), (0x1980, 0x19AB), (0x19B0, 0x19C9), (0x1A20, 0x1A54), (0x1AA7, 0x1AA7),
       (0x2118, 0x2118), (0x212E, 0x212E), (0x3006, 0x3007), (0x3021, 0x3029), (0x3031, 0x3035),
       (0x3038, 0x303A), (0x3041, 0x3096), (0x309B, 0x309F), (0x30A1, 0x30FA), (0x30FC, 0x30FF),
       (0x31F0, 0x31FF), (0x3400, 0x4DBF), (0x4E00, 0x9FFF), (0xA9E0, 0xA9E4), (0xA9E6, 0xA9EF),
       (0xA9FA, 0xA9FE), (0xAA60, 0xAA76), (0xAA7A, 0xAA7A), (0xAA7E, 0xAAAF), (0xAAB1, 0xAAB1),
       (0xAAB5, 0xAAB6), (0xAAB9, 0xAABD), (0xAAC0, 0xAAC0), (0xAAC2, 0xAAC2), (0xAADB, 0xAADD),
       (0xF900, 0xFA6D), (0xFA70, 0xFAD9), (0xFB1D, 0xFB1D), (0xFB1F, 0xFB28), (0xFB2A, 0xFB36),
       (0xFB38, 0xFB3C), (0xFB3E, 0xFB3E), (0xFB40, 0xFB41), (0xFB43, 0xFB44), (0xFB46, 0xFB4F),
       (0xFF66, 0xFF9F), (0x11700, 0x1171A), (0x11740, 0x11746), (0x17000, 0x187F7),
       (0x18800, 0x18CD5), (0x18CFF, 0x18D08), (0x1AFF0, 0x1AFF3), (0x1AFF5, 0x1AFFB),
       (0x1AFFD, 0x1AFFE), (0x1B000, 0x1B122), (0x1B132, 0x1B132), (0x1B150, 0x1B152),
       (0x1B155, 0x1B155), (0x1B164, 0x1B167), (0x1B170, 0x1B2FB), (0x20000, 0x2A6DF),
       (0x2A700, 0x2B739), (0x2B740, 0x2B81D), (0x2B820, 0x2CEA1), (0x2CEB0, 0x2EBE0),
       (0x2EBF0, 0x2EE5D), (0x2F800, 0x2FA1D), (0x30000, 0x3134A), (0x31350, 0x323AF)]⟩,
  ⟨["cr"], [(0xD, 0xD)]⟩,
  ⟨["doublequote", "dq"], [(0x22, 0x22)]⟩,
  ⟨["extend"], .adjust [extendingRanges, Category.spacingMarkRanges] [(0x1F3FB, 0x1F3FF)] []⟩,
  ⟨["ex", "extendnumlet"],
    [(0x5F, 0x5F), (0x202F, 0x202F), (0x203F, 0x2040), (0x2054, 0x2054), (0xFE33, 0xFE34),
     (0xFE4D, 0xFE4F), (0xFF3F, 0xFF3F)]⟩,
  ⟨["fo", "format"],
    [(0xAD, 0xAD), (0x61C, 0x61C), (0x180E, 0x180E), (0x200E, 0x200F), (0x202A, 0x202E),
     (0x2060, 0x2064), (0x2066, 0x206F), (0xFEFF, 0xFEFF), (0xFFF9, 0xFFFB), (0x13430, 0x1343F),
     (0x1BCA0, 0x1BCA3), (0x1D173, 0x1D17A), (0xE0001, 0xE0001)]⟩,
  ⟨["hebrewletter", "hl"],
    [(0x5D0, 0x5EA), (0x5EF, 0x5F2), (0xFB1D, 0xFB1D), (0xFB1F, 0xFB28), (0xFB2A, 0xFB36),
     (0xFB38, 0xFB3C), (0xFB3E, 0xFB3E), (0xFB40, 0xFB41), (0xFB43, 0xFB44), (0xFB46, 0xFB4F)]⟩,
  ⟨["ka", "katakana"],
    [(0x3031, 0x3035), (0x309B, 0x309C), (0x30A0, 0x30FA), (0x30FC, 0x30FF), (0x31F0, 0x31FF),
     (0x32D0, 0x32FE), (0x3300, 0x3357), (0xFF66, 0xFF9D), (0x1AFF0, 0x1AFF3), (0x1AFF5, 0x1AFFB),
     (0x1AFFD, 0x1AFFE), (0x1B000, 0x1B000), (0x1B120, 0x1B122), (0x1B155, 0x1B155),
     (0x1B164, 0x1B167)]⟩,
  ⟨["lf"], [(0xA, 0xA)]⟩,
  ⟨["midletter", "ml"],
    [(0x3A, 0x3A), (0xB7, 0xB7), (0x387, 0x387), (0x55F, 0x55F), (0x5F4, 0x5F4), (0x2027, 0x2027),
     (0xFE13, 0xFE13), (0xFE55, 0xFE55), (0xFF1A, 0xFF1A)]⟩,
  ⟨["midnum", "mn"],
    [(0x2C, 0x2C), (0x3B, 0x3B), (0x37E, 0x37E), (0x589, 0x589), (0x60C, 0x60D), (0x66C, 0x66C),
     (0x7F8, 0x7F8), (0x2044, 0x2044), (0xFE50, 0xFE50), (0xFE54, 0xFE54), (0xFF0C, 0xFF0C),
     (0xFF1B, 0xFF1B)]⟩,
  ⟨["mb", "midnumlet"],
    [(0x2E, 0x2E), (0x2018, 0x2019), (0x2024, 0x2024), (0xFE52, 0xFE52), (0xFF07, 0xFF07),
     (0xFF0E, 0xFF0E)]⟩,
  ⟨["newline", "nl"], [(0xB, 0xC), (0x85, 0x85), (0x2028, 0x2029)]⟩,
  ⟨["nu", "numeric"],
    .adjust [Category.decimalNumberRanges]
      [(0x600, 0x605), (0x66B, 0x66B), (0x6DD, 0x6DD), (0x890, 0x891), (0x8E2, 0x8E2),
       (0x19DA, 0x19DA), (0x110BD, 0x110BD), (0x110CD, 0x110CD)]
      []⟩,
  ⟨["regionalindicator", "ri"], [(0x1F1E6, 0x1F1FF)]⟩,
  ⟨["singlequote", "sq"], [(0x27, 0x27)]⟩,
  ⟨["wsegspace"],
    [(0x20, 0x20), (0x1680, 0x1680), (0x2000, 0x2006), (0x2008, 0x200A), (0x205F, 0x205F),
     (0x3000, 0x3000)]⟩,
  ⟨["zwj"], [(0x200D, 0x200D)]⟩]

/-- The classes by which a text is cut into sentences. -/
def sentenceBreaks : Array NamedRanges := #[
  ⟨["at", "aterm"], [(0x2E, 0x2E), (0x2024, 0x2024), (0xFE52, 0xFE52), (0xFF0E, 0xFF0E)]⟩,
  ⟨["cr"], [(0xD, 0xD)]⟩,
  ⟨["cl", "close"],
    [(0x22, 0x22), (0x27, 0x29), (0x5B, 0x5B), (0x5D, 0x5D), (0x7B, 0x7B), (0x7D, 0x7D),
     (0xAB, 0xAB), (0xBB, 0xBB), (0xF3A, 0xF3D), (0x169B, 0x169C), (0x2018, 0x201F),
     (0x2039, 0x203A), (0x2045, 0x2046), (0x207D, 0x207E), (0x208D, 0x208E), (0x2308, 0x230B),
     (0x2329, 0x232A), (0x275B, 0x2760), (0x2768, 0x2775), (0x27C5, 0x27C6), (0x27E6, 0x27EF),
     (0x2983, 0x2998), (0x29D8, 0x29DB), (0x29FC, 0x29FD), (0x2E00, 0x2E0D), (0x2E1C, 0x2E1D),
     (0x2E20, 0x2E29), (0x2E42, 0x2E42), (0x2E55, 0x2E5C), (0x3008, 0x3011), (0x3014, 0x301B),
     (0x301D, 0x301F), (0xFD3E, 0xFD3F), (0xFE17, 0xFE18), (0xFE35, 0xFE44), (0xFE47, 0xFE48),
     (0xFE59, 0xFE5E), (0xFF08, 0xFF09), (0xFF3B, 0xFF3B), (0xFF3D, 0xFF3D), (0xFF5B, 0xFF5B),
     (0xFF5D, 0xFF5D), (0xFF5F, 0xFF60), (0xFF62, 0xFF63), (0x1F676, 0x1F678)]⟩,
  ⟨["ex", "extend"], .adjust [extendingRanges, Category.spacingMarkRanges] [(0x200D, 0x200D)] []⟩,
  ⟨["fo", "format"],
    .adjust [Category.formatRanges]
      []
      [(0x600, 0x605), (0x6DD, 0x6DD), (0x890, 0x891), (0x8E2, 0x8E2), (0x200C, 0x200D),
       (0x110BD, 0x110BD), (0x110CD, 0x110CD), (0xE0020, 0xE007F)]⟩,
  ⟨["lf"], [(0xA, 0xA)]⟩,
  ⟨["lo", "lower"],
    .adjust [lowercaseRanges] [] [(0x345, 0x345), (0x10D0, 0x10FA), (0x10FD, 0x10FF)]⟩,
  ⟨["nu", "numeric"],
    .adjust [Category.decimalNumberRanges]
      [(0x600, 0x605), (0x66B, 0x66C), (0x6DD, 0x6DD), (0x890, 0x891), (0x8E2, 0x8E2),
       (0x19DA, 0x19DA), (0x110BD, 0x110BD), (0x110CD, 0x110CD)]
      []⟩,
  ⟨["le", "oletter"],
    .adjust [Category.modifierLetterRanges, Category.otherLetterRanges, Category.letterNumberRanges]
      [(0x5F3, 0x5F3), (0x10D0, 0x10FA), (0x10FD, 0x10FF), (0x1C90, 0x1CBA), (0x1CBD, 0x1CBF)]
      [(0xAA, 0xAA), (0xBA, 0xBA), (0x2B0, 0x2B8), (0x2C0, 0x2C1), (0x2E0, 0x2E4), (0x37A, 0x37A),
       (0x10FC, 0x10FC), (0x1D2C, 0x1D6A), (0x1D78, 0x1D78), (0x1D9B, 0x1DBF), (0x2071, 0x2071),
       (0x207F, 0x207F), (0x2090, 0x209C), (0x2160, 0x217F), (0x2C7C, 0x2C7D), (0xA69C, 0xA69D),
       (0xA770, 0xA770), (0xA7F2, 0xA7F4), (0xA7F8, 0xA7F9), (0xAB5C, 0xAB5F), (0xAB69, 0xAB69),
       (0xFF9E, 0xFF9F), (0x10780, 0x10780), (0x10783, 0x10785), (0x10787, 0x107B0),
       (0x107B2, 0x107BA), (0x1E030, 0x1E06D)]⟩,
  ⟨["sc", "scontinue"],
    [(0x2C, 0x2D), (0x3A, 0x3B), (0x37E, 0x37E), (0x55D, 0x55D), (0x60C, 0x60D), (0x7F8, 0x7F8),
     (0x1802, 0x1802), (0x1808, 0x1808), (0x2013, 0x2014), (0x3001, 0x3001), (0xFE10, 0xFE11),
     (0xFE13, 0xFE14), (0xFE31, 0xFE32), (0xFE50, 0xFE51), (0xFE54, 0xFE55), (0xFE58, 0xFE58),
     (0xFE63, 0xFE63), (0xFF0C, 0xFF0D), (0xFF1A, 0xFF1B), (0xFF64, 0xFF64)]⟩,
  ⟨["st", "sterm"],
    .adjust [sentenceEndRanges]
      []
      [(0x2E, 0x2E), (0x2024, 0x2024), (0xFE52, 0xFE52), (0xFF0E, 0xFF0E)]⟩,
  ⟨["se", "sep"], [(0x85, 0x85), (0x2028, 0x2029)]⟩,
  ⟨["sp"],
    [(0x9, 0x9), (0xB, 0xC), (0x20, 0x20), (0xA0, 0xA0), (0x1680, 0x1680), (0x2000, 0x200A),
     (0x202F, 0x202F), (0x205F, 0x205F), (0x3000, 0x3000)]⟩,
  ⟨["up", "upper"],
    .adjust [uppercaseRanges, Category.titlecaseLetterRanges]
      []
      [(0x1C90, 0x1CBA), (0x1CBD, 0x1CBF)]⟩]

end ClassLiterals.Unicode
