import BrokerGuard.Channel.Basic
import BrokerGuard.Message.Rules
import BrokerGuard.Csrf.Token
/-!
# Security of the inbound channel

Three interceptors guard the channel.  `identity` makes the message's user the ambient identity while the message is
handled.  `csrf` demands that a connecting client repeats the token of its session.  `authorization` applies the first rule
that matches the message, for the ambient user, and lets messages pass that no rule matches.
-/
namespace BrokerGuard
namespace ChannelInterceptor

variable {ω : Type}

/-- Makes the message's user the ambient identity, and brings back the former one afterwards. -/
def identity : ChannelInterceptor ω where
  name := "SecurityContextChannelInterceptor"
  preSend m := do
    Surroundings.modifyAmbient (Ambient.push m.user)
    pure (m, .ok ())
  afterSend _ _ := Surroundings.modifyAmbient Ambient.pop

/-- The token in the session attributes, if a readable one is there. -/
def sessionToken? (m : Message) : Option CsrfToken := (m.attributes.get? CsrfToken.attributeName).bind CsrfToken.ofJson?

/-- The check of the token: only messages that connect have to repeat it. -/
def checkToken (m : Message) : Except MessageError Unit :=
  if m.type ≠ .connect then .ok ()
  else match sessionToken? m with
    | none => .error .missingCsrfToken
    | some token =>
      match m.firstHeader? token.headerName with
      | some value => if token.accepts value then .ok () else .error (.invalidCsrfToken token.headerName)
      | none => .error (.invalidCsrfToken token.headerName)

/-- Demands the token of the session from connecting clients. -/
def csrf : ChannelInterceptor ω where
  name := "CsrfChannelInterceptor"
  preSend m := pure (m, checkToken m)

end ChannelInterceptor

/-- The rules of a channel and the manager that decides by them. -/
structure ChannelSecurity where
  rules : MessageRules
  manager : DecisionManager Message

namespace ChannelSecurity

/-- The decision on a message for a user. -/
def check (security : ChannelSecurity) (user : Option User) (m : Message) : Except MessageError Unit :=
  match security.rules.forMessage m with
  | none => .ok ()
  | some attributes =>
    match security.manager.decide user m attributes with
    | .ok () => .ok ()
    | .error _ => .error (.accessDenied m.type.name (m.destination.getD "<none>"))

/-- Applies the rules to every message. -/
def interceptor {ω : Type} (security : ChannelSecurity) : ChannelInterceptor ω where
  name := "ChannelSecurityInterceptor"
  preSend m := do
    let user ← Surroundings.currentUser
    pure (m, security.check user m)

end ChannelSecurity
end BrokerGuard
