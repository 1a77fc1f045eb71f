import BrokerGuard.Expression.Parser
/-!
# Attributes of secured objects

An attribute is a raw text, which may still have to be read as an expression, or an expression that was read.
-/
namespace BrokerGuard

/-- An attribute of a secured object. -/
inductive Attribute where
  | raw (text : String)
  | parsed (expression : ParsedExpression)
  deriving DecidableEq, Repr

namespace Attribute

/-- The raw text; a parsed expression has none. -/
def raw? : Attribute → Option String
  | raw text => some text
  | parsed _ => none

/-- The parsed expression; a raw text has none. -/
def parsed? : Attribute → Option ParsedExpression
  | raw _ => none
  | parsed expression => some expression

/-- The text of the attribute: the raw text, or the source of the expression. -/
def text : Attribute → String
  | raw text => text
  | parsed expression => expression.source

end Attribute
end BrokerGuard
