import BrokerGuard.Http.Exchange
import BrokerGuard.Access.RequestKey
/-!
# URL security

In front of a service: the authenticated user is attached to the request and is the ambient identity while the service
answers.  A request that the rules refuse does not reach the service; it is answered with status 403 when there is a user
and 401 when there is none.
-/
namespace BrokerGuard

/-- Finds the user of a request. -/
abbrev Authenticator := HttpRequest → Option User

/-- What the URL rules see of a request. -/
def HttpRequest.target (r : HttpRequest) : RequestTarget := ⟨r.method, r.path⟩

namespace UrlSecurity

variable {ω : Type}

/-- The request with the authenticated user attached. -/
def attachUser (r : HttpRequest) (user : Option User) : HttpRequest :=
  match user with
  | some user => { r with user := some user }
  | none => r

/-- The request may reach the service. -/
def admits (authorizer : Option UrlAuthorizer) (user : Option User) (r : HttpRequest) : Bool :=
  match authorizer with
  | none => true
  | some authorizer =>
    match authorizer.decide user r.target with
    | .ok () => true
    | .error _ => false

/-- The answer to a refused request. -/
def refusal (user : Option User) : HttpResponse := { status := if user.isSome then 403 else 401 }

/-- The service behind authentication and URL rules. -/
def guard (authenticator : Option Authenticator) (authorizer : Option UrlAuthorizer) (inner : Service ω) : Service ω :=
  fun r =>
    let user := authenticator.bind fun find => find r
    let request := attachUser r user
    Exchange.within user (if admits authorizer user request then inner request else pure (refusal user))

end UrlSecurity
end BrokerGuard
