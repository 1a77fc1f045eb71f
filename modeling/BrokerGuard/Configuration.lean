import BrokerGuard.Expression.Basic
/-!
# Configuration errors

Why a security configuration cannot be put to work.  A named component may be registered under one kind and asked for
under another; how the kinds are called is the host's business, so the wording takes their names as a parameter.
-/
namespace BrokerGuard

/-- The kinds of components that a component context holds. -/
inductive ComponentKind where
  | text
  | number
  | handlerMapping
  deriving DecidableEq, Repr

/-- Why a configuration is refused. -/
inductive ConfigurationError where
  | missingExpressionParser
  | attributeCount (key : String) (count : Nat)
  | expressionParse (key expression : String) (cause : ParseError)
  | noSuchComponent (name : String)
  | componentOfOtherKind (name : String) (expected : ComponentKind)
  | unexpectedHandler (component handler : String)
  | unexpectedFallbackService (service : String)
  deriving DecidableEq, Repr

/-- The wording of a configuration error, with the host's names for the kinds of components. -/
def ConfigurationError.message (kindName : ComponentKind → String) : ConfigurationError → String
  | missingExpressionParser => "A non-null expression parser is required"
  | attributeCount key count => "Expected a single expression attribute for " ++ key ++ ", got " ++ toString count
  | expressionParse key expression cause =>
    "Failed to parse expression '" ++ expression ++ "' for " ++ key ++ ": " ++ cause.message
  | noSuchComponent name => "No bean named '" ++ name ++ "' is defined"
  | componentOfOtherKind name expected =>
    "Bean named '" ++ name ++ "' is expected to be of type '" ++ kindName expected ++ "'"
  | unexpectedHandler component handler =>
    "Bean " ++ component ++ " is expected to contain mappings to either a SockJsHttpRequestHandler or a " ++
      "WebSocketHttpRequestHandler but got " ++ handler
  | unexpectedFallbackService service =>
    "sockJsService must be instance of TransportHandlingSockJsService got " ++ service

end BrokerGuard
