import BrokerGuard.Broker
/-!
# The chat

A small application on top of the broker security.  Frames arrive as JSON texts, pass the inbound channel, and are
acknowledged in the name of the principal on whose behalf they were handled.
-/
namespace BrokerGuard
namespace Chat

/-- The users of the chat. -/
def user? (name : String) : Option User :=
  match name with
  | "admin" => some ((User.named "admin").addRoles ["ADMIN", "USER"])
  | "user" => some ((User.named "user").addRoles ["USER"])
  | "guest" => some (User.named "guest")
  | _ => none

/-- The inbound rules of the chat. -/
def inboundRules : List RuleStep :=
  [.rule .nullDestination .authenticated,
   .rule (.destinations (some .subscribe) ["/user/queue/errors"]) .permitAll,
   .rule (.destinations none ["/app/admin/**"]) (.hasRole "ADMIN"),
   .rule (.destinations none ["/app/**"]) (.hasRole "USER"),
   .rule (.destinations (some .subscribe) ["/user/**", "/topic/**"]) (.hasRole "USER"),
   .rule (.types [.message, .subscribe]) .denyAll,
   .rule .any .denyAll]

/-- Stands at the end of the chain and lets every message pass. -/
def frameLogger {ω : Type} : ChannelInterceptor ω where
  name := "FrameLogger"

/-- What the chat declares. -/
def configurer (ω : Type) (sameOriginDisabled : Bool) : BrokerConfigurer ω where
  sameOriginEnforced := !sameOriginDisabled
  inbound registry := registry.declareAll inboundRules
  customize registration := registration.add [frameLogger]
  endpoints := [{ paths := ["/ws"] }, { paths := ["/sockjs"], sockJs := true }]

/-- The broker security of the chat. -/
def security (ω : Type) (sameOriginDisabled : Bool) : BrokerSecurity ω := { configurer := configurer ω sameOriginDisabled }

/-- The chat when it runs. -/
structure State (ω : Type) where
  channel : InboundChannel ω
  endpoints : HandlerMapping ω

/-- Starts an application: builds the channel, registers and patches the endpoints, and takes the mapping out of the
context. -/
def State.start {ω : Type} (b : BrokerSecurity ω) : Except ConfigurationError (State ω) :=
  match b.channel with
  | .error e => .error e
  | .ok channel =>
    match b.afterStartup (b.registerEndpoints {}) with
    | .error e => .error e
    | .ok context =>
      match context.remove b.settings.mappingName .handlerMapping with
      | .error e => .error (.ofLookup e)
      | .ok (mapping, _) => .ok ⟨channel, mapping⟩

/-- A frame of a client. -/
structure Frame where
  type : MessageType
  destination : Option String := none
  headers : List (String × String) := []
  body : String := ""
  deriving DecidableEq, Repr

namespace Frame

/-- Reads a field that may be missing. -/
def optional {α : Type} (missing : α) (read : Json → Option α) : Option Json → Option α
  | none => some missing
  | some value => read value

/-- The names of the fields in order. -/
def fieldNames : List String := ["type", "destination", "headers", "body"]

/-- The frame of a JSON value.  Only the type must be there. -/
def ofJson? (value : Json) : Option Frame :=
  match value.fields? fieldNames with
  | some [some type, destination, headers, body] => do
    let type ← MessageType.ofJson? type
    let destination ← optional none Json.decode? destination
    let headers ← optional [] Json.stringMap? headers
    let body ← optional "" Json.decode? body
    pure ⟨type, destination, headers, body⟩
  | _ => none

/-- The frame that a text writes. -/
def ofText? (text : String) : Option Frame := (Json.ofRecordText fieldNames text).bind ofJson?

/-- The message of a frame. -/
def toMessage (f : Frame) (sessionId : String) (attributes : SessionAttributes) (user : Option User) : Message :=
  { type := f.type, destination := f.destination, headers := f.headers, sessionId := some sessionId,
    attributes := attributes, user := user, payload := f.body.toUTF8.toList }

end Frame

/-- The answer to a frame. -/
structure Reply where
  ok : Bool
  detail : String
  deriving DecidableEq, Repr

/-- The text of a reply. -/
def Reply.text (r : Reply) : String := Json.compact (.object [("ok", .bool r.ok), ("detail", .string r.detail)])

/-- Acknowledges a message in the name of its principal. -/
def acknowledge (m : Message) (principal : Option Principal) : String :=
  let name := match principal with
    | some p => p.user.username
    | none => "anonymous"
  match m.type with
  | .connect => "CONNECTED " ++ name
  | type => type.name ++ " " ++ m.destination.getD "-" ++ " by " ++ name

/-- Delivers a message that passed. -/
def deliver {ω : Type} : MessageHandler ω String := fun m => do
  let user ← Surroundings.currentUser
  pure (acknowledge m (user.map Principal.mk))

/-- Answers one frame. -/
def handleFrame {ω : Type} (channel : InboundChannel ω) (text sessionId : String) (attributes : SessionAttributes)
    (user : Option User) : StateM (Surroundings ω) Reply :=
  match Frame.ofText? text with
  | none => pure ⟨false, "malformed frame"⟩
  | some frame => do
    let outcome ← channel.send deliver (frame.toMessage sessionId attributes user)
    match outcome with
    | .ok detail => pure ⟨true, detail⟩
    | .error e => pure ⟨false, e.message⟩

end Chat
end BrokerGuard
