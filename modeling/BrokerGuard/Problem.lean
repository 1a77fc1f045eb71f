import BrokerGuard.Components
import BrokerGuard.Json.Encode
import BrokerGuard.Message.Basic
/-!
# Problem reports

What is reported of an error: its kind, its wording, and the HTTP status when it ends a request.  Kinds are names that
tell errors apart without their wording.
-/
namespace BrokerGuard

/-- A report of an error. -/
structure Problem where
  kind : String
  message : String
  status : Option Nat := none
  deriving DecidableEq, Repr

/-- A report as a value. -/
def Problem.toJson (p : Problem) : Json :=
  .object ([("error", .string p.kind), ("message", .string p.message)] ++
    (match p.status with
      | some status => [("status", Json.encode status)]
      | none => []))

instance : Json.Encode Problem := ⟨Problem.toJson⟩

/-- The report of an error in an expression's text. -/
def ParseError.problem (e : ParseError) : Problem :=
  let kind := match e with
    | empty => "Empty"
    | unexpectedEnd => "UnexpectedEnd"
    | unexpectedChar _ _ => "UnexpectedChar"
    | unexpectedToken _ _ => "UnexpectedToken"
    | unterminatedString _ => "UnterminatedString"
    | missingArguments _ _ => "MissingArguments"
  { kind := kind, message := e.message }

/-- The report of an expression without a value. -/
def EvaluationError.problem (e : EvaluationError) : Problem := { kind := "UnknownFunction", message := e.message }

/-- The report of a refusal. -/
def AccessDenied.problem (e : AccessDenied) : Problem := { kind := "AccessDenied", message := e.message }

/-- The report of a text that names no message type. -/
def UnknownMessageType.problem (e : UnknownMessageType) : Problem := { kind := "UnknownMessageType", message := e.message }

/-- The report of an error in a configuration. -/
def ConfigurationError.problem (kindName : ComponentKind → String) (e : ConfigurationError) : Problem :=
  let kind := match e with
    | missingExpressionParser => "MissingExpressionParser"
    | attributeCount _ _ => "AttributeCount"
    | expressionParse _ _ _ => "ExpressionParse"
    | noSuchComponent _ => "NoSuchBean"
    | componentOfOtherKind _ _ => "BeanNotOfRequiredType"
    | unexpectedHandler _ _ => "UnexpectedHandler"
    | unexpectedFallbackService _ => "UnexpectedSockJsService"
  { kind := kind, message := e.message kindName }

/-- The report of a message that is not handled. -/
def MessageError.problem (e : MessageError) : Problem :=
  let kind := match e with
    | missingCsrfToken => "MissingCsrfToken"
    | invalidCsrfToken _ => "InvalidCsrfToken"
    | accessDenied _ _ => "AccessDenied"
    | unauthenticated => "Unauthenticated"
    | missingRole _ => "MissingRole"
    | missingAuthority _ => "MissingAuthority"
    | rejected _ => "Rejected"
  { kind := kind, message := e.message }

/-- The report of a failed handshake. -/
def HandshakeError.problem (e : HandshakeError) : Problem :=
  let kind := match e with
    | missingOrigin => "MissingOrigin"
    | invalidOrigin _ => "InvalidOrigin"
    | rejected _ => "HandshakeRejected"
    | attributeStorage _ _ => "AttributeStorage"
    | noHandler _ => "NoHandler"
  { kind := kind, message := e.message, status := some e.status }

/-- The report of a request whose token is not in order. -/
def CsrfError.problem (e : CsrfError) : Problem :=
  let kind := match e with
    | missingToken => "MissingToken"
    | invalidToken => "InvalidToken"
    | storage _ => "Storage"
  { kind := kind, message := e.message, status := some e.status }

instance : Json.Encode ParseError := ⟨fun e => e.problem⟩
instance : Json.Encode EvaluationError := ⟨fun e => e.problem⟩
instance : Json.Encode AccessDenied := ⟨fun e => e.problem⟩
instance : Json.Encode UnknownMessageType := ⟨fun e => e.problem⟩
instance : Json.Encode MessageError := ⟨fun e => e.problem⟩
instance : Json.Encode HandshakeError := ⟨fun e => e.problem⟩
instance : Json.Encode CsrfError := ⟨fun e => e.problem⟩

end BrokerGuard
