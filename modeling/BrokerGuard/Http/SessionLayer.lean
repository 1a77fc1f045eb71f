import BrokerGuard.Http.Exchange
/-!
# Sessions over several requests

The session travels with the client.  A request brings the session that an earlier response handed out, or none; the
response hands out a session when a new one has values or an old one was changed.
-/
namespace BrokerGuard
namespace HttpSession

variable {ω : Type}

/-- The session that a response hands out, if any, after the client brought `brought`. -/
def handedOut (brought : Option (List (String × Json))) (after : HttpSession) : Option (List (String × Json)) :=
  match brought with
  | none => if after.members.isEmpty then none else some after.members
  | some _ => if after.changed then some after.members else none

/-- Answers a request of a client that brings a session or none; the answer comes with the session handed out. -/
def serve (service : Service ω) (brought : Option (List (String × Json))) (request : HttpRequest) :
    StateM (Exchange ω) (HttpResponse × Option (List (String × Json))) := fun s =>
  let (response, after) := service request { s with session := ⟨brought.getD [], false⟩ }
  ((response, handedOut brought after.session), after)

end HttpSession
end BrokerGuard
