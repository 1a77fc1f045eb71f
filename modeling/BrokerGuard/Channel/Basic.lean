import BrokerGuard.Message.Principal
/-!
# The inbound channel

A message passes a chain of interceptors before it is handled.  Each interceptor may change the message, or refuse it,
which ends the dispatch.  Afterwards, in reverse order, every interceptor that let the message pass is told whether it was
handled.

A dispatch runs in a scope of the ambient identity of its own, so that nothing an interceptor does to the identity reaches
the caller.
-/
namespace BrokerGuard

/-- A hook around every message.  `preSend` answers the message as it leaves it, also when it refuses it. -/
structure ChannelInterceptor (ω : Type) where
  name : String
  preSend : Message → StateM (Surroundings ω) (Message × Except MessageError Unit) := fun m => pure (m, .ok ())
  afterSend : Message → Bool → StateM (Surroundings ω) Unit := fun _ _ => pure ()

/-- What is done with a message that passed. -/
abbrev MessageHandler (ω α : Type) := Message → StateM (Surroundings ω) α

/-- The outcome was a success. -/
def succeeded {ε α : Type} : Except ε α → Bool
  | .ok _ => true
  | .error _ => false

/-- The interceptors through which messages pass. -/
structure InboundChannel (ω : Type) where
  interceptors : List (ChannelInterceptor ω) := []

namespace InboundChannel

variable {ω α : Type}

/-- Passes a message through the interceptors and handles it.  The answer has the message in its final form. -/
def dispatch (handler : MessageHandler ω α) :
    List (ChannelInterceptor ω) → Message → StateM (Surroundings ω) (Message × Except MessageError α)
  | [], m => do
    let result ← handler m
    pure (m, .ok result)
  | i :: rest, m => do
    let (m, verdict) ← i.preSend m
    match verdict with
    | .error e => pure (m, .error e)
    | .ok () =>
      let (m, result) ← dispatch handler rest m
      i.afterSend m (succeeded result)
      pure (m, result)

/-- Sends a message, in a scope of its own. -/
def send (channel : InboundChannel ω) (handler : MessageHandler ω α) (m : Message) :
    StateM (Surroundings ω) (Except MessageError α) :=
  Surroundings.within none do
    let (_, result) ← dispatch handler channel.interceptors m
    pure result

/-- The names of the interceptors. -/
def names (channel : InboundChannel ω) : List String := channel.interceptors.map ChannelInterceptor.name

/-- The display of a channel. -/
def display (channel : InboundChannel ω) : String :=
  Text.record "InboundChannel" [("interceptors", Text.quotedList channel.names)]

end InboundChannel

/-- The interceptors registered so far.  Registration adds at the end. -/
structure ChannelRegistration (ω : Type) where
  interceptors : List (ChannelInterceptor ω) := []

namespace ChannelRegistration

variable {ω : Type}

/-- The registration with more interceptors. -/
def add (r : ChannelRegistration ω) (interceptors : List (ChannelInterceptor ω)) : ChannelRegistration ω :=
  ⟨r.interceptors ++ interceptors⟩

/-- The names of the interceptors. -/
def names (r : ChannelRegistration ω) : List String := r.interceptors.map ChannelInterceptor.name

/-- There is at least one interceptor. -/
def hasInterceptors (r : ChannelRegistration ω) : Bool := !r.interceptors.isEmpty

/-- The channel with the registered interceptors. -/
def toChannel (r : ChannelRegistration ω) : InboundChannel ω := ⟨r.interceptors⟩

/-- The display of a registration. -/
def display (r : ChannelRegistration ω) : String :=
  Text.record "ChannelRegistration" [("interceptors", Text.quotedList r.names)]

end ChannelRegistration
end BrokerGuard
