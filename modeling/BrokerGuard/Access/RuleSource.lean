import BrokerGuard.Access.RuleMap
import BrokerGuard.Configuration
/-!
# From rule maps to parsed rules

Before rules are used, every key must carry exactly one attribute, and a raw one is read as an expression.  The first entry
that does not comply stops the conversion.  Attributes that are parsed already are kept.
-/
namespace BrokerGuard
namespace RuleMap

variable {κ : Type} [DecidableEq κ]

/-- The expression attribute of one entry. -/
def parseEntry (display : κ → String) (parser : ExpressionParser) (key : κ) :
    List Attribute → Except ConfigurationError Attribute
  | [.parsed expression] => .ok (.parsed expression)
  | [.raw text] =>
    match parser text with
    | .ok expression => .ok (.parsed expression)
    | .error cause => .error (.expressionParse (display key) text cause)
  | attributes => .error (.attributeCount (display key) attributes.length)

/-- Parses the entries after those already converted. -/
def parseEntries (display : κ → String) (parser : ExpressionParser) (done : RuleMap κ) :
    List (κ × List Attribute) → Except ConfigurationError (RuleMap κ)
  | [] => .ok done
  | (key, attributes) :: rest =>
    match parseEntry display parser key attributes with
    | .ok single => parseEntries display parser (done.insert key [single]) rest
    | .error e => .error e

/-- Every key with its single expression attribute. -/
def parse (map : RuleMap κ) (display : κ → String) (parser : Option ExpressionParser) :
    Except ConfigurationError (RuleMap κ) :=
  match parser with
  | none => .error .missingExpressionParser
  | some parser => parseEntries display parser {} map.entries

end RuleMap
end BrokerGuard
