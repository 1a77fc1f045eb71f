import BrokerGuard.Components
import BrokerGuard.Channel.Security
/-!
# Broker security

An application declares inbound rules, interceptors of its own and endpoints, and the broker security puts them together.
The inbound channel has the interceptors in a fixed order: the ambient identity; the check of the token, when the same
origin is enforced; the rules, when there are any; and the application's own.

When all endpoints are registered, and the same origin is enforced, every handler's chain is given an interceptor in front
that copies the token of the HTTP session to the session attributes.  All handlers are examined before any is changed.
-/
namespace BrokerGuard

/-- What an application declares. -/
structure BrokerConfigurer (ω : Type) where
  /-- Clients have to repeat the token of their session. -/
  sameOriginEnforced : Bool := true
  inbound : RuleRegistry → RuleRegistry := id
  customize : ChannelRegistration ω → ChannelRegistration ω := id
  endpoints : List (Endpoint ω) := []

/-- The name under which the handler mapping is usually registered. -/
def defaultMappingName : String := "stompWebSocketHandlerMapping"

/-- The settings of the broker security. -/
structure BrokerSettings where
  mappingName : String := defaultMappingName
  allowIfAllAbstain : Bool := false
  root : Root := Root.builtin

/-- The broker security of an application. -/
structure BrokerSecurity (ω : Type) where
  configurer : BrokerConfigurer ω := {}
  settings : BrokerSettings := {}

namespace BrokerSecurity

variable {ω : Type}

/-- The inbound rules of the application. -/
def registry (b : BrokerSecurity ω) : RuleRegistry := b.configurer.inbound {}

/-- The manager that decides by the rules: affirmative, with one voter for expressions. -/
def manager (b : BrokerSecurity ω) : DecisionManager Message :=
  { rule := .affirmative, voters := [.expression b.settings.root], allowIfAllAbstain := b.settings.allowIfAllAbstain }

/-- The parsed rules and their manager. -/
def channelSecurity (b : BrokerSecurity ω) : Except ConfigurationError ChannelSecurity :=
  match b.registry.build with
  | .ok rules => .ok ⟨rules, b.manager⟩
  | .error e => .error e

/-- The interceptors that the broker security adds. -/
def ownInterceptors (b : BrokerSecurity ω) (security : ChannelSecurity) : List (ChannelInterceptor ω) :=
  [.identity] ++ (if b.configurer.sameOriginEnforced then [.csrf] else []) ++
    (if b.registry.containsMapping then [security.interceptor] else [])

/-- Adds the broker security's interceptors to a registration, and then the application's. -/
def configure (b : BrokerSecurity ω) (registration : ChannelRegistration ω) :
    Except ConfigurationError (ChannelRegistration ω) :=
  match b.channelSecurity with
  | .ok security => .ok (b.configurer.customize (registration.add (b.ownInterceptors security)))
  | .error e => .error e

/-- The inbound channel. -/
def channel (b : BrokerSecurity ω) : Except ConfigurationError (InboundChannel ω) :=
  match b.configure {} with
  | .ok registration => .ok registration.toChannel
  | .error e => .error e

/-- Registers the mapping of the application's endpoints. -/
def registerEndpoints (b : BrokerSecurity ω) (context : ComponentContext ω) : ComponentContext ω :=
  context.register b.settings.mappingName .handlerMapping (HandlerMapping.ofEndpoints b.configurer.endpoints)

/-- A handler whose chain can be given an interceptor. -/
def examine (mappingName : String) : EndpointHandler ω → Except ConfigurationError Unit
  | .webSocket _ => .ok ()
  | .sockJs (.transports _) => .ok ()
  | .sockJs (.custom name _) => .error (.unexpectedFallbackService name)
  | .custom name _ => .error (.unexpectedHandler mappingName name)

/-- Examines handlers in order. -/
def examineAll (mappingName : String) : List (Pattern.Ant × EndpointHandler ω) → Except ConfigurationError Unit
  | [] => .ok ()
  | entry :: rest =>
    match examine mappingName entry.2 with
    | .ok () => examineAll mappingName rest
    | .error e => .error e

/-- The handler with the interceptor for the token in front of its chain. -/
def withTokenInterceptor : EndpointHandler ω → EndpointHandler ω
  | .webSocket chain => .webSocket (.csrfToken (.inSession {}) :: chain)
  | .sockJs (.transports chain) => .sockJs (.transports (.csrfToken (.inSession {}) :: chain))
  | handler => handler

/-- The mapping with the interceptor for the token in front of every chain. -/
def patch (mapping : HandlerMapping ω) : HandlerMapping ω :=
  ⟨mapping.entries.map fun e => (e.1, withTokenInterceptor e.2)⟩

/-- Puts the interceptor for the token in front of every chain of the registered mapping. -/
def afterStartup (b : BrokerSecurity ω) (context : ComponentContext ω) :
    Except ConfigurationError (ComponentContext ω) :=
  if b.configurer.sameOriginEnforced then
    match context.get b.settings.mappingName .handlerMapping with
    | .error e => .error (.ofLookup e)
    | .ok mapping =>
      match examineAll b.settings.mappingName (HandlerMapping.entries mapping) with
      | .error e => .error e
      | .ok () => .ok (context.register b.settings.mappingName .handlerMapping (patch mapping))
  else .ok context

end BrokerSecurity
end BrokerGuard
