import BrokerGuard.Message.Type
import BrokerGuard.Message.Attributes
import BrokerGuard.Access.Decision
/-!
# Messages

A message has a type and perhaps a destination; native headers, whose names are case-sensitive and may repeat; the
attributes of its session; the user who sent it; and a payload of bytes.
-/
namespace BrokerGuard

/-- A message on the inbound channel. -/
structure Message where
  type : MessageType
  destination : Option String := none
  headers : List (String × String) := []
  sessionId : Option String := none
  attributes : SessionAttributes := {}
  user : Option User := none
  payload : List UInt8 := []

namespace Message

/-- All values of a native header, in the order in which they were added. -/
def headerValues (m : Message) (name : String) : List String :=
  (m.headers.filter (·.1 == name)).map Prod.snd

/-- The first value of a native header. -/
def firstHeader? (m : Message) (name : String) : Option String := m.headers.lookup name

/-- The message as sent by another user. -/
def setUser (m : Message) (user : Option User) : Message := { m with user := user }

/-- What expressions see of a message. -/
def context (m : Message) (user : Option User) : EvaluationContext :=
  { user := user, messageType := some m.type.name, destination := m.destination }

instance : Describable Message := ⟨context⟩

end Message

/-- Why a message is not handled. -/
inductive MessageError where
  /-- The session has no CSRF token to compare with. -/
  | missingCsrfToken
  /-- The frame does not repeat the token. -/
  | invalidCsrfToken (header : String)
  | accessDenied (type destination : String)
  /-- A principal is asked for where there is none. -/
  | unauthenticated
  | missingRole (role : String)
  | missingAuthority (authority : String)
  /-- An application interceptor refuses the message. -/
  | rejected (reason : String)
  deriving DecidableEq, Repr

/-- The wording of a message error. -/
def MessageError.message : MessageError → String
  | missingCsrfToken => "Missing CSRF Token"
  | invalidCsrfToken header => "Invalid CSRF Token found in header '" ++ header ++ "'"
  | accessDenied type destination => "Access is denied for " ++ type ++ " message to " ++ destination
  | unauthenticated => "Full authentication is required to handle this message"
  | missingRole role => "Missing required role: " ++ role
  | missingAuthority authority => "Missing required authority: " ++ authority
  | rejected reason => "Message rejected: " ++ reason

end BrokerGuard
