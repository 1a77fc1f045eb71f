import BrokerGuard.Text.Property.Letter
import BrokerGuard.Text.Property.Mark
import BrokerGuard.Text.Property.Number
import BrokerGuard.Text.Property.Punctuation
import BrokerGuard.Text.Property.Symbol
import BrokerGuard.Text.Property.Separator
/-!
# General categories

Every character has one general category.  The tables list the runs of the characters of a category; the letters with
case also stand in runs in which upper and lower case take turns.  The unassigned characters are those in no table.
-/
namespace BrokerGuard
namespace Text

/-- A general category of version 16 of the Unicode standard. -/
inductive Category where
  | uppercaseLetter
  | lowercaseLetter
  | titlecaseLetter
  | modifierLetter
  | otherLetter
  | nonspacingMark
  | spacingMark
  | enclosingMark
  | decimalNumber
  | letterNumber
  | otherNumber
  | connectorPunctuation
  | dashPunctuation
  | openPunctuation
  | closePunctuation
  | initialPunctuation
  | finalPunctuation
  | otherPunctuation
  | mathSymbol
  | currencySymbol
  | modifierSymbol
  | otherSymbol
  | spaceSeparator
  | lineSeparator
  | paragraphSeparator
  | control
  | format
  /-- The values between U+D7FF and U+E000, which are no characters. -/
  | surrogate
  | privateUse
  | unassigned
  deriving DecidableEq, Repr

namespace Category

/-- The letters. -/
def letters : List Category := [uppercaseLetter, lowercaseLetter, titlecaseLetter, modifierLetter, otherLetter]

/-- The letters with case. -/
def casedLetters : List Category := [uppercaseLetter, lowercaseLetter, titlecaseLetter]

/-- The marks. -/
def marks : List Category := [nonspacingMark, spacingMark, enclosingMark]

/-- The numbers. -/
def numbers : List Category := [decimalNumber, letterNumber, otherNumber]

/-- The punctuation. -/
def punctuation : List Category :=
  [connectorPunctuation, dashPunctuation, openPunctuation, closePunctuation, initialPunctuation, finalPunctuation,
   otherPunctuation]

/-- The symbols. -/
def symbols : List Category := [mathSymbol, currencySymbol, modifierSymbol, otherSymbol]

/-- The separators. -/
def separators : List Category := [spaceSeparator, lineSeparator, paragraphSeparator]

/-- The categories of the characters that are assigned and are none of the above. -/
def others : List Category := [control, format, surrogate, privateUse]

/-- The categories of assigned characters. -/
def assigned : List Category := letters ++ marks ++ numbers ++ punctuation ++ symbols ++ separators ++ others

/-- The runs of the characters of a category. -/
def runs : Category → List (Nat × Nat)
  | uppercaseLetter => Property.uppercaseLetterRuns
  | lowercaseLetter => Property.lowercaseLetterRuns
  | titlecaseLetter => Property.titlecaseLetterRuns
  | modifierLetter => Property.modifierLetterRuns
  | otherLetter => Property.otherLetterRuns
  | nonspacingMark => Property.nonspacingMarkRuns
  | spacingMark => Property.spacingMarkRuns
  | enclosingMark => Property.enclosingMarkRuns
  | decimalNumber => Property.decimalNumberRuns
  | letterNumber => Property.letterNumberRuns
  | otherNumber => Property.otherNumberRuns
  | connectorPunctuation => Property.connectorPunctuationRuns
  | dashPunctuation => Property.dashPunctuationRuns
  | openPunctuation => Property.openPunctuationRuns
  | closePunctuation => Property.closePunctuationRuns
  | initialPunctuation => Property.initialPunctuationRuns
  | finalPunctuation => Property.finalPunctuationRuns
  | otherPunctuation => Property.otherPunctuationRuns
  | mathSymbol => Property.mathSymbolRuns
  | currencySymbol => Property.currencySymbolRuns
  | modifierSymbol => Property.modifierSymbolRuns
  | otherSymbol => Property.otherSymbolRuns
  | spaceSeparator => Property.spaceSeparatorRuns
  | lineSeparator => Property.lineSeparatorRuns
  | paragraphSeparator => Property.paragraphSeparatorRuns
  | control => Property.controlRuns
  | format => Property.formatRuns
  | surrogate => [(0xD800, 0xDFFF)]
  | privateUse => Property.privateUseRuns
  | unassigned => []

/-- The runs in which every second character belongs to a category. -/
def alternations : Category → List (Nat × Nat)
  | uppercaseLetter => Property.uppercaseLetterAlternations
  | lowercaseLetter => Property.lowercaseLetterAlternations
  | _ => []

end Category
end Text
end BrokerGuard
