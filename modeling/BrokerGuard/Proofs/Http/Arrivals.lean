import BrokerGuard.Http.Exchange
/-!
# Arrivals — which requests reach a service

A service behind a guard cannot tell which requests the guard kept back.  To see what reaches it, the service notes every
request together with the ambient user (`Service.noting`), and does nothing else besides what it did before.
-/
namespace BrokerGuard

variable {ω : Type}

/-- A request as it reaches a service, and the ambient user of the moment. -/
structure Arrival where
  request : HttpRequest
  user : Option User

/-- The exchange with the requests that reached the service beside the application's state. -/
def Exchange.withArrivals (s : Exchange ω) (arrivals : List Arrival) : Exchange (ω × List Arrival) where
  ambient := s.ambient
  world := (s.world, arrivals)
  session := s.session
  secrets := s.secrets

def Service.noting (inner : Service ω) : Service (ω × List Arrival) := fun r s =>
  let (response, after) := inner r ⟨⟨s.ambient, s.world.1⟩, s.session, s.secrets⟩
  (response, after.withArrivals (s.world.2 ++ [⟨r, s.ambient.user?⟩]))

theorem Service.noting_withArrivals (inner : Service ω) (r : HttpRequest) (s : Exchange ω) (arrivals : List Arrival) :
    Service.noting inner r (s.withArrivals arrivals) =
      ((inner r s).1, (inner r s).2.withArrivals (arrivals ++ [⟨r, s.ambient.user?⟩])) := rfl

end BrokerGuard
