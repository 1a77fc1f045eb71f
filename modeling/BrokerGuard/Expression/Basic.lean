import BrokerGuard.User
/-!
# Access expressions

An access expression combines truth values and calls of named functions by `and`, `or` and `not`.  Its canonical text is
fully parenthesised, so that no precedence is needed to read it.
-/
namespace BrokerGuard

/-- An access expression. -/
inductive Expression where
  | literal (value : Bool)
  | call (name : String) (args : List String)
  | conj (left right : Expression)
  | disj (left right : Expression)
  | neg (inner : Expression)
  deriving DecidableEq, Repr

namespace Expression

/-- The names of the functions called, from left to right, with repetitions. -/
def functionNames : Expression → List String
  | literal _ => []
  | call name _ => [name]
  | conj left right => left.functionNames ++ right.functionNames
  | disj left right => left.functionNames ++ right.functionNames
  | neg inner => inner.functionNames

/-- The canonical text.  Arguments stand between single quotes as they are. -/
def canonical : Expression → String
  | literal value => if value then "true" else "false"
  | call name args => name ++ "(" ++ String.intercalate ", " (args.map fun a => "'" ++ a ++ "'") ++ ")"
  | conj left right => "(" ++ left.canonical ++ " and " ++ right.canonical ++ ")"
  | disj left right => "(" ++ left.canonical ++ " or " ++ right.canonical ++ ")"
  | neg inner => "not " ++ inner.canonical

instance : ToString Expression := ⟨canonical⟩

end Expression

/-- Why a text is no expression.  Positions count characters from zero. -/
inductive ParseError where
  | empty
  | unexpectedEnd
  | unexpectedChar (found : Char) (position : Nat)
  | unexpectedToken (found : String) (position : Nat)
  | unterminatedString (position : Nat)
  | missingArguments (name : String) (position : Nat)
  deriving DecidableEq, Repr

/-- The wording of a parse error. -/
def ParseError.message : ParseError → String
  | empty => "empty expression"
  | unexpectedEnd => "unexpected end of expression"
  | unexpectedChar found position =>
    "unexpected character '" ++ String.singleton found ++ "' at position " ++ toString position
  | unexpectedToken found position => "unexpected token '" ++ found ++ "' at position " ++ toString position
  | unterminatedString position => "unterminated string literal starting at position " ++ toString position
  | missingArguments name position => "expected '(' after '" ++ name ++ "' at position " ++ toString position

/-- An expression with the text it was read from. -/
structure ParsedExpression where
  source : String
  expression : Expression
  deriving DecidableEq, Repr

/-- A way to read expressions. -/
abbrev ExpressionParser := String → Except ParseError ParsedExpression

end BrokerGuard
