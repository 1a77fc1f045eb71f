import BrokerGuard.Channel.Basic
import BrokerGuard.Journal
/-!
# Recording channel interceptors

A recorder writes a line before and after each message, with the ambient user of the moment.  Besides, it can put another
user on the message, demand a role of the ambient user, and refuse every message, in this order.
-/
namespace BrokerGuard

/-- A channel interceptor that keeps a journal. -/
structure ChannelRecorder where
  label : String
  /-- Stands in for the user of every message. -/
  standIn : Option (Option User) := none
  demandedRole : Option String := none
  refusal : Option String := none

namespace ChannelRecorder

/-- The message with the stand-in as its user. -/
def amend (r : ChannelRecorder) (m : Message) : Message :=
  match r.standIn with
  | some user => m.setUser user
  | none => m

/-- What the recorder demands of the ambient identity. -/
def demand (r : ChannelRecorder) (ambient : Ambient) : Except MessageError Unit :=
  match r.demandedRole with
  | none => .ok ()
  | some role =>
    match Principal.ofAmbient ambient with
    | .error e => .error e
    | .ok principal => (principal.requireRole role).map fun _ => ()

/-- What the recorder says to a message. -/
def verdict (r : ChannelRecorder) (ambient : Ambient) : Except MessageError Unit :=
  match r.demand ambient, r.refusal with
  | .ok (), some reason => .error (.rejected reason)
  | outcome, _ => outcome

/-- The line written before a message. -/
def before (r : ChannelRecorder) (user : Option User) : String := "pre:" ++ r.label ++ ":" ++ Journal.nameOf user

/-- The line written after a message. -/
def after (r : ChannelRecorder) (m : Message) (sent : Bool) (user : Option User) : String :=
  String.intercalate ":" ["after", r.label, if sent then "true" else "false", Journal.nameOf user, m.type.name]

/-- The recorder as an interceptor. -/
def interceptor (r : ChannelRecorder) : ChannelInterceptor Journal where
  name := r.label
  preSend m := do
    let s ← get
    Journal.note (r.before s.ambient.user?)
    pure (r.amend m, r.verdict s.ambient)
  afterSend m sent := do
    let user ← Surroundings.currentUser
    Journal.note (r.after m sent user)

end ChannelRecorder
end BrokerGuard
