import BrokerGuard.Pattern.Regex.Flags
import BrokerGuard.Text.CharSet.Segment
/-!
# Properties in regular expressions

A property of characters is asked for by its name, or by the name of a kind of property and a value of it.  A general
category and a script need no kind; the age of a character and its part in graphemes, words and sentences do.  Names are
compared without regard to letter case, blanks, dashes and underscores, and `is` before a name is left out.
-/
namespace BrokerGuard
namespace Pattern
namespace Regex

open Text (CharSet)

/-- A character that counts in a name. -/
def countsInName (c : Char) : Bool := decide (c.toNat < 128) && c != ' ' && c != '_' && c != '-'

/-- A name in the form in which names are compared.  The one abbreviation that needs its `is` keeps it. -/
def looseName (name : List Char) : String :=
  let clean (cs : List Char) := (cs.filter countsInName).map Char.toLower
  if (name.take 2).map Char.toLower == ['i', 's'] then
    let rest := clean (name.drop 2)
    String.ofList (if rest = ['c'] then ['i', 's', 'c'] else rest)
  else String.ofList (clean name)

open Text.Category in
/-- The general categories by their names. -/
def categoryNames : List (List String × List Text.Category) :=
  [(["lu", "uppercaseletter"], [uppercaseLetter]), (["ll", "lowercaseletter"], [lowercaseLetter]),
   (["lt", "titlecaseletter"], [titlecaseLetter]), (["lm", "modifierletter"], [modifierLetter]),
   (["lo", "otherletter"], [otherLetter]), (["lc", "casedletter"], casedLetters), (["l", "letter"], letters),
   (["mn", "nonspacingmark"], [nonspacingMark]), (["mc", "spacingmark"], [spacingMark]),
   (["me", "enclosingmark"], [enclosingMark]), (["m", "mark", "combiningmark"], marks),
   (["nd", "decimalnumber", "digit"], [decimalNumber]), (["nl", "letternumber"], [letterNumber]),
   (["no", "othernumber"], [otherNumber]), (["n", "number"], numbers),
   (["pc", "connectorpunctuation"], [connectorPunctuation]), (["pd", "dashpunctuation"], [dashPunctuation]),
   (["ps", "openpunctuation"], [openPunctuation]), (["pe", "closepunctuation"], [closePunctuation]),
   (["pi", "initialpunctuation"], [initialPunctuation]), (["pf", "finalpunctuation"], [finalPunctuation]),
   (["po", "otherpunctuation"], [otherPunctuation]), (["p", "punctuation", "punct"], punctuation),
   (["sm", "mathsymbol"], [mathSymbol]), (["sc", "currencysymbol"], [currencySymbol]),
   (["sk", "modifiersymbol"], [modifierSymbol]), (["so", "othersymbol"], [otherSymbol]), (["s", "symbol"], symbols),
   (["zs", "spaceseparator"], [spaceSeparator]), (["zl", "lineseparator"], [lineSeparator]),
   (["zp", "paragraphseparator"], [paragraphSeparator]), (["z", "separator"], separators),
   (["cc", "control", "cntrl"], [control]), (["cf", "format"], [format]), (["co", "privateuse"], [privateUse]),
   (["cn", "unassigned"], [unassigned]), (["c", "other"], unassigned :: others)]

/-- The value of a name in a table. -/
def named? {α : Type} (table : List (List String × α)) (name : String) : Option α :=
  (CharSet.rowOf? table name).map Prod.snd

/-- The set of a general category. -/
def categorySet? (name : String) : Option CharSet :=
  if name = "any" then some .all
  else if name = "assigned" then some (.complement .unassigned)
  else if name = "ascii" then some .ascii
  else (named? categoryNames name).map .ofCategories

/-- The properties that follow from others, by their names. -/
def derivedProperties : List (List String × CharSet) :=
  [(["alpha", "alphabetic"], .alphabetic), (["lower", "lowercase"], .lowercase), (["upper", "uppercase"], .uppercase),
   (["cased"], .cased), (["ci", "caseignorable"], .caseIgnorable), (["math"], .mathematical),
   (["space", "wspace", "whitespace"], .space), (["ids", "idstart"], .identifierStart),
   (["idc", "idcontinue"], .identifierPart), (["xids", "xidstart"], .stableIdentifierStart),
   (["xidc", "xidcontinue"], .stableIdentifierPart), (["grext", "graphemeextend"], .extending),
   (["grbase", "graphemebase"], .graphemeBase), (["cwl", "changeswhenlowercased"], .changesInLowerCase),
   (["cwu", "changeswhenuppercased"], .changesInUpperCase), (["cwt", "changeswhentitlecased"], .changesInTitleCase),
   (["cwcf", "changeswhencasefolded"], .changesInFolding), (["cwcm", "changeswhencasemapped"], .changesInCase),
   (["oalpha", "otheralphabetic"], ⟨Text.Property.addedAlphabeticRuns⟩),
   (["olower", "otherlowercase"], ⟨Text.Property.addedLowercaseRuns⟩),
   (["oupper", "otheruppercase"], ⟨Text.Property.addedUppercaseRuns⟩),
   (["omath", "othermath"], ⟨Text.Property.addedMathRuns⟩),
   (["ogrext", "othergraphemeextend"], ⟨Text.Property.addedExtendingRuns⟩),
   (["oids", "otheridstart"], ⟨Text.Property.addedIdentifierStartRuns⟩),
   (["oidc", "otheridcontinue"], ⟨Text.Property.addedIdentifierPartRuns⟩)]

/-- The set of a name alone. -/
def propertySet? (name : List Char) : Option CharSet :=
  let name := looseName name
  named? derivedProperties name <|> CharSet.property? name <|> categorySet? name <|> CharSet.script? name

/-- The kinds of properties with values, and the set of a value by its name. -/
def propertyKinds : List (List String × (String → Option CharSet)) :=
  [(["gc", "generalcategory"], categorySet?), (["sc", "script"], CharSet.script?),
   (["scx", "scriptextensions"], CharSet.usedIn?), (["age"], CharSet.presentIn?),
   (["gcb", "graphemeclusterbreak"], named? CharSet.graphemeBreaks), (["wb", "wordbreak"], named? CharSet.wordBreaks),
   (["sb", "sentencebreak"], named? CharSet.sentenceBreaks)]

/-- The set of a value of a kind of property. -/
def valueSet? (kind value : List Char) : Option CharSet := do
  let values ← named? propertyKinds (looseName kind)
  values (looseName value)

/-- Splits a text at the first place at which a sign stands. -/
def splitAtSign (sign : List Char) : List Char → Option (List Char × List Char)
  | [] => none
  | c :: cs =>
    if sign.isPrefixOf (c :: cs) then some ([], (c :: cs).drop sign.length)
    else (splitAtSign sign cs).map fun r => (c :: r.1, r.2)

/-- The set of what stands in braces, and whether its complement is meant. -/
def bracedSet? (content : List Char) : Option (CharSet × Bool) :=
  match splitAtSign ['!', '='] content, splitAtSign [':'] content, splitAtSign ['='] content with
  | some (kind, value), _, _ => (valueSet? kind value).map fun set => (set, true)
  | none, some (kind, value), _ => (valueSet? kind value).map fun set => (set, false)
  | none, none, some (kind, value) => (valueSet? kind value).map fun set => (set, false)
  | none, none, none => (propertySet? content).map fun set => (set, false)

end Regex
end Pattern
end BrokerGuard
