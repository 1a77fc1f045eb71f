import BrokerGuard.Http.Exchange
import BrokerGuard.Csrf.Repository
/-!
# Handshakes

Before a socket is opened, its request passes a chain of interceptors.  Each sees the session attributes as the earlier ones
left them, and accepts the request with attributes of its own, rejects it, or fails.  The first that does not accept ends
the chain.  Afterwards, in reverse order, those that accepted are told the outcome.
-/
namespace BrokerGuard

/-- Why a socket is not opened. -/
inductive HandshakeError where
  | missingOrigin
  | invalidOrigin (origin : String)
  | rejected (interceptor : String)
  | attributeStorage (key message : String)
  | noHandler (path : String)
  deriving DecidableEq, Repr

namespace HandshakeError

/-- The wording of a handshake error. -/
def message : HandshakeError → String
  | missingOrigin => "Forbidden: missing Origin header"
  | invalidOrigin origin => "Forbidden: origin '" ++ origin ++ "' is not allowed"
  | rejected interceptor => "Forbidden: handshake rejected by " ++ interceptor
  | attributeStorage key message => "Failed to store handshake attribute '" ++ key ++ "': " ++ message
  | noHandler path => "No WebSocket endpoint mapped to '" ++ path ++ "'"

/-- The HTTP status of a handshake error. -/
def status : HandshakeError → Nat
  | missingOrigin => 403
  | invalidOrigin _ => 403
  | rejected _ => 403
  | attributeStorage _ _ => 500
  | noHandler _ => 404

/-- The response to a failed handshake. -/
def response (e : HandshakeError) : HttpResponse := { status := e.status, body := .text e.message }

end HandshakeError

/-- What an interceptor says to a handshake. -/
inductive HandshakeVerdict where
  /-- Goes on with these attributes. -/
  | accept (attributes : SessionAttributes)
  | reject
  | fail (error : HandshakeError)

/-- A hook around handshakes. -/
structure HandshakeInterceptor (ω : Type) where
  name : String
  before : HttpRequest → SessionAttributes → StateM (Exchange ω) HandshakeVerdict
  after : HttpRequest → Option HandshakeError → StateM (Exchange ω) Unit := fun _ _ => pure ()

/-- The error of an outcome. -/
def error? {ε α : Type} : Except ε α → Option ε
  | .ok _ => none
  | .error e => some e

namespace Handshake

variable {ω : Type}

/-- Runs the chain on a request whose attributes so far are given. -/
def runFrom (request : HttpRequest) :
    List (HandshakeInterceptor ω) → SessionAttributes → StateM (Exchange ω) (Except HandshakeError SessionAttributes)
  | [], attributes => pure (.ok attributes)
  | i :: rest, attributes => do
    let verdict ← i.before request attributes
    match verdict with
    | .accept attributes =>
      let outcome ← runFrom request rest attributes
      i.after request (error? outcome)
      pure outcome
    | .reject => pure (.error (.rejected i.name))
    | .fail e => pure (.error e)

/-- Runs the chain on a request: the session attributes, or why there is no session. -/
def run (interceptors : List (HandshakeInterceptor ω)) (request : HttpRequest) :
    StateM (Exchange ω) (Except HandshakeError SessionAttributes) :=
  runFrom request interceptors {}

end Handshake

namespace HandshakeInterceptor

variable {ω : Type}

/-- The token of a request: the one attached to it, else the one of its session. -/
def requestToken? (repository : TokenRepository) (request : HttpRequest) (session : HttpSession) : Option CsrfToken :=
  match request.token with
  | some token => some token
  | none => repository.load session

/-- Copies the token of the request to the session attributes.  Never rejects. -/
def csrfToken (repository : TokenRepository) : HandshakeInterceptor ω where
  name := "CsrfTokenHandshakeInterceptor"
  before request attributes := fun s =>
    match requestToken? repository request s.session with
    | some token => (.accept (attributes.insert CsrfToken.attributeName token.toJson), s)
    | none => (.accept attributes, s)

end HandshakeInterceptor
end BrokerGuard
