import BrokerGuard.Handshake.Origin
import BrokerGuard.Text.Quoted
/-!
# Endpoint handlers

What answers requests for a socket.  A plain handler runs its own chain of handshake interceptors.  A SockJS handler leaves
the handshake to a service, which serves all fallback transports with one chain.  An application may bring handlers and
services of its own.
-/
namespace BrokerGuard

/-- The handshake of a handler. -/
abbrev HandshakeAction (ω : Type) := HttpRequest → StateM (Exchange ω) (Except HandshakeError SessionAttributes)

/-- The service behind a SockJS handler. -/
inductive SockJsService (ω : Type) where
  /-- One chain for every transport. -/
  | transports (interceptors : List (HandshakeInterceptor ω))
  /-- A service of the application. -/
  | custom (name : String) (handshake : HandshakeAction ω)

/-- Answers requests for a socket. -/
inductive EndpointHandler (ω : Type) where
  | webSocket (interceptors : List (HandshakeInterceptor ω))
  | sockJs (service : SockJsService ω)
  /-- A handler of the application. -/
  | custom (name : String) (handshake : HandshakeAction ω)

namespace SockJsService

variable {ω : Type}

/-- The name of a service. -/
def name : SockJsService ω → String
  | transports _ => "TransportHandlingSockJsService"
  | custom name _ => name

/-- Runs the handshake. -/
def handshake : SockJsService ω → HandshakeAction ω
  | transports interceptors => Handshake.run interceptors
  | custom _ action => action

end SockJsService

/-- The display of what holds a chain. -/
def displayChain {ω : Type} (name : String) (interceptors : List (HandshakeInterceptor ω)) : String :=
  Text.record name [("handshake_interceptors", Text.quotedList (interceptors.map HandshakeInterceptor.name))]

namespace EndpointHandler

variable {ω : Type}

/-- The name of a handler. -/
def name : EndpointHandler ω → String
  | webSocket _ => "WebSocketHttpRequestHandler"
  | sockJs _ => "SockJsHttpRequestHandler"
  | custom name _ => name

/-- Runs the handshake. -/
def handshake : EndpointHandler ω → HandshakeAction ω
  | webSocket interceptors => Handshake.run interceptors
  | sockJs service => service.handshake
  | custom _ action => action

/-- The chain of a handler, if it has one that is known. -/
def interceptors? : EndpointHandler ω → Option (List (HandshakeInterceptor ω))
  | webSocket interceptors => some interceptors
  | sockJs (.transports interceptors) => some interceptors
  | _ => none

/-- The display of a handler; one of the application shows nothing. -/
def display : EndpointHandler ω → String
  | webSocket interceptors => displayChain "WebSocketHttpRequestHandler" interceptors
  | sockJs service =>
    Text.record "SockJsHttpRequestHandler" [("sock_js_service", Text.quoted service.name)] ++
      (match service with
        | .transports interceptors => " " ++ displayChain "TransportHandlingSockJsService" interceptors
        | .custom _ _ => "")
  | custom _ _ => ""

end EndpointHandler
end BrokerGuard
