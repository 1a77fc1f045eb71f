import BrokerGuard.Endpoint.Handler
import BrokerGuard.Pattern.Ant
/-!
# Handler mappings and endpoint registration

A mapping binds path patterns to handlers, in the order in which the patterns were first registered.  Registering a pattern
again replaces its handler in place.  A request is answered by the first handler whose pattern matches its path.

An endpoint has paths, allowed origins and interceptors.  Its chain ends with the check of the origin.  A SockJS endpoint
is mapped to everything under its paths.
-/
namespace BrokerGuard

/-- Handlers by path pattern. -/
structure HandlerMapping (ω : Type) where
  entries : List (Pattern.Ant × EndpointHandler ω) := []

namespace HandlerMapping

variable {ω : Type}

/-- Replaces the handler of the pattern in place, or adds the pattern at the end. -/
def registerIn (pattern : String) (handler : EndpointHandler ω) :
    List (Pattern.Ant × EndpointHandler ω) → List (Pattern.Ant × EndpointHandler ω)
  | [] => [(.ofSource pattern, handler)]
  | (p, old) :: rest =>
    if p.source = pattern then (p, handler) :: rest else (p, old) :: registerIn pattern handler rest

/-- The mapping with the pattern bound to the handler. -/
def register (m : HandlerMapping ω) (pattern : String) (handler : EndpointHandler ω) : HandlerMapping ω :=
  ⟨registerIn pattern handler m.entries⟩

/-- The first handler whose pattern matches the path. -/
def handler? (m : HandlerMapping ω) (path : String) : Option (EndpointHandler ω) :=
  (m.entries.find? fun e => e.1.accepts path).map Prod.snd

/-- The patterns in order. -/
def patterns (m : HandlerMapping ω) : List String := m.entries.map fun e => e.1.source

/-- The number of patterns. -/
def size (m : HandlerMapping ω) : Nat := m.entries.length

/-- There are no patterns. -/
def isEmpty (m : HandlerMapping ω) : Bool := m.entries.isEmpty

/-- The display of a mapping. -/
def display (m : HandlerMapping ω) : String :=
  Text.association (m.entries.map fun e => (Text.quoted e.1.source, Text.quoted e.2.name))

end HandlerMapping

/-- A registered endpoint. -/
structure Endpoint (ω : Type) where
  paths : List String
  allowedOrigins : List String := []
  interceptors : List (HandshakeInterceptor ω) := []
  sockJs : Bool := false

namespace Endpoint

variable {ω : Type}

/-- The chain of the endpoint: the application's interceptors, and then the check of the origin. -/
def chain (e : Endpoint ω) : List (HandshakeInterceptor ω) := e.interceptors ++ [.origin (.ofList e.allowedOrigins)]

/-- The pattern under which a path of the endpoint is mapped. -/
def pattern (e : Endpoint ω) (path : String) : String :=
  if e.sockJs then String.ofList (OriginPolicy.trimSlashes path.toList ++ "/**".toList) else path

/-- The handler of the endpoint. -/
def handler (e : Endpoint ω) : EndpointHandler ω :=
  if e.sockJs then .sockJs (.transports e.chain) else .webSocket e.chain

end Endpoint

/-- The mapping of a list of endpoints. -/
def HandlerMapping.ofEndpoints {ω : Type} (endpoints : List (Endpoint ω)) : HandlerMapping ω :=
  endpoints.foldl (fun m e => e.paths.foldl (fun m path => m.register (e.pattern path) e.handler) m) {}

end BrokerGuard
