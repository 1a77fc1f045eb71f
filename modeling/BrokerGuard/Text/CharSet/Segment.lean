import BrokerGuard.Text.CharSet.Derived
/-!
# Sets for cutting texts into pieces

The standard cuts texts into graphemes, which are signs as a reader sees them, into words and into sentences.  For each kind
of cut a character plays at most one part.  The tables list the parts by their names and the characters that play them.
-/
namespace BrokerGuard
namespace Text
namespace CharSet

open Category

/-- The signs that stand before numbers and enclose them. -/
def numberSigns : CharSet :=
  ⟨[(0x600, 0x605), (0x6DD, 0x6DD), (0x890, 0x891), (0x8E2, 0x8E2), (0x110BD, 0x110BD), (0x110CD, 0x110CD)]⟩

/-- The letters that spell the names of flags. -/
def flagLetters : CharSet := ⟨[(0x1F1E6, 0x1F1FF)]⟩

/-- The character that joins two graphemes. -/
def graphemeJoiner : CharSet := single '\u200d'

/-- The characters of tags after a flag. -/
def tagCharacters : CharSet := ⟨[(0xE0020, 0xE007F)]⟩

/-- The Hangul syllables from a first to a last scalar value, without a final consonant: every 28th. -/
def openSyllables : CharSet := ofSorted ((List.range 399).map fun k => (0xAC00 + 28 * k, 0xAC00 + 28 * k))

/-- The other Hangul syllables. -/
def closedSyllables : CharSet := difference ⟨[(0xAC00, 0xD7A3)]⟩ openSyllables

/-- The vowel signs and marks with a width that stay with the grapheme before them. -/
def spacingMarks : CharSet :=
  difference (union (difference (ofCategory spacingMark) extending) ⟨[(0xE33, 0xE33), (0xEB3, 0xEB3)]⟩)
    ⟨[(0x102B, 0x102C), (0x1038, 0x1038), (0x1062, 0x1064), (0x1067, 0x106D), (0x1083, 0x1083), (0x1087, 0x108C),
      (0x108F, 0x108F), (0x109A, 0x109C), (0x1A61, 0x1A61), (0x1A63, 0x1A64), (0xAA7B, 0xAA7B), (0xAA7D, 0xAA7D),
      (0x11720, 0x11721)]⟩

/-- The characters that stand apart from all graphemes. -/
def graphemeControls : CharSet :=
  difference
    (union (ofCategories [lineSeparator, paragraphSeparator, control, format])
      ⟨[(0x2065, 0x2065), (0xFFF0, 0xFFF8), (0xE0000, 0xE0000), (0xE0002, 0xE001F), (0xE0080, 0xE00FF),
        (0xE01F0, 0xE0FFF)]⟩)
    (unions [numberSigns, joiners, tagCharacters, ⟨[(0xA, 0xA), (0xD, 0xD), (0x70F, 0x70F)]⟩])

/-- The characters that stand before the grapheme they belong to. -/
def graphemePrefixes : CharSet :=
  union (property "prependedconcatenationmark")
    ⟨[(0xD4E, 0xD4E), (0x111C2, 0x111C3), (0x113D1, 0x113D1), (0x1193F, 0x1193F), (0x11941, 0x11941),
      (0x11A3A, 0x11A3A), (0x11A84, 0x11A89), (0x11D46, 0x11D46), (0x11F02, 0x11F02)]⟩

/-- The parts of characters in graphemes. -/
def graphemeBreaks : List (List String × CharSet) :=
  [(["cr"], single '\r'), (["lf"], single '\n'), (["control", "cn"], graphemeControls),
   (["extend", "ex"], union extending (property "emojimodifier")), (["prepend", "pp"], graphemePrefixes),
   (["spacingmark", "sm"], spacingMarks), (["l"], ⟨[(0x1100, 0x115F), (0xA960, 0xA97C)]⟩),
   (["v"], ⟨[(0x1160, 0x11A7), (0xD7B0, 0xD7C6), (0x16D63, 0x16D63), (0x16D67, 0x16D6A)]⟩),
   (["t"], ⟨[(0x11A8, 0x11FF), (0xD7CB, 0xD7FB)]⟩), (["lv"], openSyllables), (["lvt"], closedSyllables),
   (["regionalindicator", "ri"], flagLetters), (["zwj"], graphemeJoiner)]

/-- The marks after a character that no cut parts from it. -/
def attached : CharSet := unions [extending, ofCategory spacingMark, graphemeJoiner]

/-- The format characters that are no part of numbers. -/
def looseFormats : CharSet := difference (ofCategory format) (unions [numberSigns, joiners, tagCharacters])

/-- The digits and the signs between and before them. -/
def numeric : CharSet := unions [digits, numberSigns, ⟨[(0x66B, 0x66C), (0x19DA, 0x19DA)]⟩]

/-- The characters of Katakana and the marks written with them. -/
def katakana : CharSet :=
  union (script "kana")
    ⟨[(0x3031, 0x3035), (0x309B, 0x309C), (0x30A0, 0x30A0), (0x30FC, 0x30FC), (0xFF70, 0xFF70)]⟩

/-- The letters of Hebrew. -/
def hebrewLetters : CharSet := intersection (script "hebr") (ofCategory otherLetter)

/-- The characters of scripts that put no blanks between words, with the marks that no cut parts from them. -/
def unspaced : CharSet :=
  unions [property "ideographic", katakana, attached,
    unions (["thai", "laoo", "khmr", "mymr", "tale", "talu", "lana", "tavt", "ahom", "hira"].map script)]

/-- The letters of words. -/
def wordLetters : CharSet :=
  union (difference alphabetic (union unspaced hebrewLetters))
    ⟨[(0xB8, 0xB8), (0x2C2, 0x2C5), (0x2D2, 0x2D7), (0x2DE, 0x2DF), (0x2E5, 0x2EB), (0x2ED, 0x2ED), (0x2EF, 0x2FF),
      (0x55A, 0x55C), (0x55E, 0x55E), (0x58A, 0x58A), (0x5F3, 0x5F3), (0x70F, 0x70F), (0xA708, 0xA716),
      (0xA720, 0xA721), (0xA789, 0xA78A), (0xAB5B, 0xAB5B)]⟩

/-- The parts of characters in words. -/
def wordBreaks : List (List String × CharSet) :=
  [(["cr"], single '\r'), (["lf"], single '\n'), (["newline", "nl"], ⟨[(0xB, 0xC), (0x85, 0x85), (0x2028, 0x2029)]⟩),
   (["extend"], difference (union attached (property "emojimodifier")) graphemeJoiner), (["zwj"], graphemeJoiner),
   (["format", "fo"], difference looseFormats ⟨[(0x70F, 0x70F), (0x200B, 0x200B)]⟩), (["katakana", "ka"], katakana),
   (["hebrewletter", "hl"], hebrewLetters), (["aletter", "le"], wordLetters), (["singlequote", "sq"], single '\''),
   (["doublequote", "dq"], single '"'), (["midnumlet", "mb"], midLettersAndNumbers), (["midletter", "ml"], midLetters),
   (["midnum", "mn"],
     ⟨[(0x2C, 0x2C), (0x3B, 0x3B), (0x37E, 0x37E), (0x589, 0x589), (0x60C, 0x60D), (0x66C, 0x66C), (0x7F8, 0x7F8),
       (0x2044, 0x2044), (0xFE10, 0xFE10), (0xFE14, 0xFE14), (0xFE50, 0xFE50), (0xFE54, 0xFE54), (0xFF0C, 0xFF0C),
       (0xFF1B, 0xFF1B)]⟩),
   (["numeric", "nu"], difference numeric (single '\u066c')),
   (["extendnumlet", "ex"],
     ⟨[(0x5F, 0x5F), (0x202F, 0x202F), (0x203F, 0x2040), (0x2054, 0x2054), (0xFE33, 0xFE34), (0xFE4D, 0xFE4F),
       (0xFF3F, 0xFF3F)]⟩),
   (["regionalindicator", "ri"], flagLetters),
   (["wsegspace"],
     ⟨[(0x20, 0x20), (0x1680, 0x1680), (0x2000, 0x2006), (0x2008, 0x200A), (0x205F, 0x205F), (0x3000, 0x3000)]⟩)]

/-- The full stops that also stand after abbreviations. -/
def fullStops : CharSet := ⟨[(0x2E, 0x2E), (0x2024, 0x2024), (0xFE52, 0xFE52), (0xFF0E, 0xFF0E)]⟩

/-- The capitals of Georgian, which no sentence takes for upper case. -/
def georgianCapitals : CharSet := ⟨[(0x1C90, 0x1CBA), (0x1CBD, 0x1CBF)]⟩

/-- The letters of Georgian, which no sentence takes for lower case. -/
def georgianLetters : CharSet := ⟨[(0x10D0, 0x10FA), (0x10FD, 0x10FF)]⟩

/-- The lower-case letters of sentences. -/
def sentenceLower : CharSet := difference lowercase (union extending georgianLetters)

/-- The upper-case letters of sentences. -/
def sentenceUpper : CharSet := difference (union uppercase (ofCategory titlecaseLetter)) georgianCapitals

/-- The separators of paragraphs, besides the carriage return and the line feed. -/
def paragraphSeparators : CharSet := ⟨[(0x85, 0x85), (0x2028, 0x2029)]⟩

/-- The parts of characters in sentences. -/
def sentenceBreaks : List (List String × CharSet) :=
  [(["cr"], single '\r'), (["lf"], single '\n'), (["sep", "se"], paragraphSeparators), (["extend", "ex"], attached),
   (["format", "fo"], looseFormats),
   (["sp"], difference space (unions [single '\n', single '\r', paragraphSeparators])),
   (["lower", "lo"], sentenceLower), (["upper", "up"], sentenceUpper),
   (["oletter", "le"],
     union (difference alphabetic (unions [sentenceLower, sentenceUpper, attached])) (single '\u05f3')),
   (["numeric", "nu"], numeric), (["aterm", "at"], fullStops),
   (["scontinue", "sc"],
     ⟨[(0x2C, 0x2D), (0x3A, 0x3B), (0x37E, 0x37E), (0x55D, 0x55D), (0x60C, 0x60D), (0x7F8, 0x7F8), (0x1802, 0x1802),
       (0x1808, 0x1808), (0x2013, 0x2014), (0x3001, 0x3001), (0xFE10, 0xFE11), (0xFE13, 0xFE14), (0xFE31, 0xFE32),
       (0xFE50, 0xFE51), (0xFE54, 0xFE55), (0xFE58, 0xFE58), (0xFE63, 0xFE63), (0xFF0C, 0xFF0D), (0xFF1A, 0xFF1B),
       (0xFF64, 0xFF64)]⟩),
   (["sterm", "st"], difference (property "sentenceterminal") fullStops),
   (["close", "cl"],
     union (ofCategories [openPunctuation, closePunctuation, initialPunctuation, finalPunctuation])
       ⟨[(0x22, 0x22), (0x27, 0x27), (0x275B, 0x2760), (0x2E00, 0x2E01), (0x2E06, 0x2E08), (0x2E0B, 0x2E0B),
         (0x1F676, 0x1F678)]⟩)]

end CharSet
end Text
end BrokerGuard
