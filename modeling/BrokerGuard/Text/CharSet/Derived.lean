import BrokerGuard.Text.CharSet.Case
import BrokerGuard.Text.CharSet.Category
import BrokerGuard.Text.CharSet.Listed
import BrokerGuard.Text.Property.Contributed
/-!
# Sets that follow from others

The sets of characters whose properties the standard derives from general categories, from lists of additions and from the
case mappings.
-/
namespace BrokerGuard
namespace Text
namespace CharSet

open Category

/-- The lower-case characters. -/
def lowercase : CharSet := union (ofCategory lowercaseLetter) ⟨Property.addedLowercaseRuns⟩

/-- The upper-case characters. -/
def uppercase : CharSet := union (ofCategory uppercaseLetter) ⟨Property.addedUppercaseRuns⟩

/-- The characters with letter case. -/
def cased : CharSet := unions [lowercase, uppercase, ofCategory titlecaseLetter]

/-- The letters, with the marks and signs that count as such. -/
def alphabetic : CharSet :=
  unions [lowercase, uppercase, ofCategories [titlecaseLetter, modifierLetter, otherLetter, letterNumber],
    ⟨Property.addedAlphabeticRuns⟩]

/-- The characters of mathematics. -/
def mathematical : CharSet := union (ofCategory mathSymbol) ⟨Property.addedMathRuns⟩

/-- The decimal digits. -/
def digits : CharSet := ofCategory decimalNumber

/-- The white space. -/
def space : CharSet := ⟨whiteSpaceRuns⟩

/-- The characters that join two letters to one. -/
def joiners : CharSet := range '\u200c' '\u200d'

/-- The characters of words. -/
def word : CharSet := unions [alphabetic, ofCategories (connectorPunctuation :: decimalNumber :: marks), joiners]

/-- The characters that belong to the sign before them. -/
def extending : CharSet := union (ofCategories [nonspacingMark, enclosingMark]) ⟨Property.addedExtendingRuns⟩

/-- The characters with a sign of their own. -/
def graphemeBase : CharSet :=
  difference (complement (ofCategories (Category.unassigned :: lineSeparator :: paragraphSeparator :: others))) extending

/-- The characters with which an identifier begins. -/
def identifierStart : CharSet :=
  difference (union (ofCategories (letterNumber :: letters)) ⟨Property.addedIdentifierStartRuns⟩) (single '\u2e2f')

/-- The characters with which an identifier goes on. -/
def identifierPart : CharSet :=
  unions [identifierStart, ofCategories [nonspacingMark, spacingMark, decimalNumber, connectorPunctuation],
    ⟨Property.addedIdentifierPartRuns⟩]

/-- The characters of identifiers whose normal form is no identifier. -/
def unstable : CharSet :=
  ⟨[(0x37A, 0x37A), (0xFC5E, 0xFC63), (0xFDFA, 0xFDFB), (0xFE70, 0xFE70), (0xFE72, 0xFE72), (0xFE74, 0xFE74),
    (0xFE76, 0xFE76), (0xFE78, 0xFE78), (0xFE7A, 0xFE7A), (0xFE7C, 0xFE7C), (0xFE7E, 0xFE7E)]⟩

/-- The spacing forms of marks on syllables, which begin an identifier but do not stay in it. -/
def spacingSoundMarks : CharSet := range '\u309b' '\u309c'

/-- The characters with which an identifier begins, also in its normal form. -/
def stableIdentifierStart : CharSet :=
  difference identifierStart
    (unions [unstable, spacingSoundMarks, ⟨[(0xE33, 0xE33), (0xEB3, 0xEB3), (0xFF9E, 0xFF9F)]⟩])

/-- The characters with which an identifier goes on, also in its normal form. -/
def stableIdentifierPart : CharSet := difference identifierPart (union unstable spacingSoundMarks)

/-- The marks between letters that end no word: the colon-like ones. -/
def midLetters : CharSet :=
  ⟨[(0x3A, 0x3A), (0xB7, 0xB7), (0x387, 0x387), (0x55F, 0x55F), (0x5F4, 0x5F4), (0x2027, 0x2027), (0xFE13, 0xFE13),
    (0xFE55, 0xFE55), (0xFF1A, 0xFF1A)]⟩

/-- The marks between letters or digits that end no word: the full stops and the closing quotation marks. -/
def midLettersAndNumbers : CharSet :=
  ⟨[(0x2E, 0x2E), (0x2018, 0x2019), (0x2024, 0x2024), (0xFE52, 0xFE52), (0xFF07, 0xFF07), (0xFF0E, 0xFF0E)]⟩

/-- The characters that do not separate cased letters of one word. -/
def caseIgnorable : CharSet :=
  unions [ofCategories [nonspacingMark, enclosingMark, format, modifierLetter, modifierSymbol], midLetters,
    midLettersAndNumbers, single '\'']

/-- The characters that a change to lower case changes. -/
def changesInLowerCase : CharSet := union (ofValues (capitalPairs.map Prod.fst)) (single '\u0130')

/-- The characters that a change to upper case changes: the lower-case letters of capitals, the title-case letters, and
letters that become one or more others. -/
def changesInUpperCase : CharSet :=
  unions [ofValues (capitalPairs.map Prod.snd), ofCategory titlecaseLetter,
    ⟨[(0xB5, 0xB5), (0x131, 0x131), (0x149, 0x149), (0x17F, 0x17F), (0x1F0, 0x1F0), (0x345, 0x345), (0x390, 0x390),
      (0x3B0, 0x3B0), (0x3C2, 0x3C2), (0x3D0, 0x3D1), (0x3D5, 0x3D6), (0x3F0, 0x3F1), (0x3F5, 0x3F5), (0x587, 0x587),
      (0x1C80, 0x1C88), (0x1E96, 0x1E9B), (0x1F50, 0x1F50), (0x1F52, 0x1F52), (0x1F54, 0x1F54), (0x1F56, 0x1F56),
      (0x1FB2, 0x1FB2), (0x1FB4, 0x1FB4), (0x1FB6, 0x1FB7), (0x1FBE, 0x1FBE), (0x1FC2, 0x1FC2), (0x1FC4, 0x1FC4),
      (0x1FC6, 0x1FC7), (0x1FD2, 0x1FD3), (0x1FD6, 0x1FD7), (0x1FE2, 0x1FE4), (0x1FE6, 0x1FE7), (0x1FF2, 0x1FF2),
      (0x1FF4, 0x1FF4), (0x1FF6, 0x1FF7), (0xFB00, 0xFB06), (0xFB13, 0xFB17)]⟩]

/-- The characters that a change to title case changes.  The letters that are in title case already stay, and so do those
that have no title case of their own. -/
def changesInTitleCase : CharSet :=
  difference (union changesInUpperCase ⟨[(0x1C4, 0x1C4), (0x1C7, 0x1C7), (0x1CA, 0x1CA), (0x1F1, 0x1F1)]⟩)
    ⟨[(0x1C5, 0x1C5), (0x1C8, 0x1C8), (0x1CB, 0x1CB), (0x1F2, 0x1F2), (0x10D0, 0x10FA), (0x10FD, 0x10FF),
      (0x1F88, 0x1F8F), (0x1F98, 0x1F9F), (0x1FA8, 0x1FAF), (0x1FBC, 0x1FBC), (0x1FCC, 0x1FCC), (0x1FFC, 0x1FFC)]⟩

/-- The characters that case folding changes: the capitals, but for the letters that folding brings to capitals, and
letters that become others. -/
def changesInFolding : CharSet :=
  difference
    (union changesInLowerCase
      ⟨[(0xB5, 0xB5), (0xDF, 0xDF), (0x149, 0x149), (0x17F, 0x17F), (0x345, 0x345), (0x3C2, 0x3C2), (0x3D0, 0x3D1),
        (0x3D5, 0x3D6), (0x3F0, 0x3F1), (0x3F5, 0x3F5), (0x587, 0x587), (0x13F8, 0x13FD), (0x1C80, 0x1C88),
        (0x1E9A, 0x1E9B), (0x1F80, 0x1F87), (0x1F90, 0x1F97), (0x1FA0, 0x1FA7), (0x1FB2, 0x1FB4), (0x1FB7, 0x1FB7),
        (0x1FC2, 0x1FC4), (0x1FC7, 0x1FC7), (0x1FF2, 0x1FF4), (0x1FF7, 0x1FF7), (0xAB70, 0xABBF), (0xFB00, 0xFB06),
        (0xFB13, 0xFB17)]⟩)
    ⟨[(0x13A0, 0x13F5)]⟩

/-- The characters that some change of case changes. -/
def changesInCase : CharSet := unions [changesInLowerCase, changesInUpperCase, changesInTitleCase]

end CharSet
end Text
end BrokerGuard
