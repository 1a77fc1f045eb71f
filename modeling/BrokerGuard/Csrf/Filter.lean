import BrokerGuard.Csrf.Repository
import BrokerGuard.Pattern.Regex.Parser
/-!
# The CSRF filter

In front of a service: every request is given the token of its session.  A request of a protected method, to a path that is
not ignored, must repeat the token, in its header or else in a parameter of the query; otherwise it is answered with an
error and does not reach the service.
-/
namespace BrokerGuard

/-- The settings of the filter. -/
structure CsrfConfig where
  repository : TokenRepository := .inSession {}
  protectedMethods : List String := ["POST", "PUT", "DELETE", "PATCH"]
  ignoredPaths : List Pattern.Regex := []

namespace CsrfConfig

/-- The settings with one more ignored pattern.  A text that is no pattern is passed over. -/
def ignorePath (c : CsrfConfig) (pattern : String) : CsrfConfig :=
  match Pattern.Regex.ofText? pattern.toList with
  | some regex => { c with ignoredPaths := c.ignoredPaths ++ [regex] }
  | none => c

/-- The path needs no token. -/
def isIgnored (c : CsrfConfig) (path : String) : Bool := c.ignoredPaths.any fun r => r.matchesSomewhere path.toList

/-- The request has to repeat the token. -/
def demandsToken (c : CsrfConfig) (r : HttpRequest) : Bool :=
  c.protectedMethods.contains r.method && !c.isIgnored r.path

end CsrfConfig

namespace CsrfFilter

/-- The pairs of a query, between ampersands. -/
def queryPairs : List Char → List (List Char)
  | [] => [[]]
  | c :: cs =>
    if c = '&' then [] :: queryPairs cs
    else match queryPairs cs with
      | [] => [[c]]
      | piece :: rest => (c :: piece) :: rest

/-- What follows the beginning, if the characters have it. -/
def after? (beginning cs : List Char) : Option (List Char) :=
  if beginning.isPrefixOf cs then some (cs.drop beginning.length) else none

/-- The first value of a query parameter, as it is written. -/
def parameter? (r : HttpRequest) (name : String) : Option String :=
  ((queryPairs (r.uri.query.getD "").toList).findSome? (after? (name.toList ++ ['=']))).map String.ofList

/-- The token that a request submits: in the header, else in the parameter. -/
def submitted? (r : HttpRequest) (token : CsrfToken) : Option String :=
  match r.headerText? token.headerName with
  | some value => some value
  | none => parameter? r token.parameterName

/-- The check of a request against the token of its session. -/
def check (c : CsrfConfig) (r : HttpRequest) (token : CsrfToken) : Except CsrfError Unit :=
  if c.demandsToken r then
    match submitted? r token with
    | some value => if token.accepts value then .ok () else .error .invalidToken
    | none => .error .missingToken
  else .ok ()

/-- The answer to a request that fails the check. -/
def refusal (e : CsrfError) : HttpResponse := { status := e.status, body := .text e.message }

/-- The service behind the filter. -/
def guard {ω : Type} (c : CsrfConfig) (inner : Service ω) : Service ω := fun r => do
  let loaded ← c.repository.loadOrGenerate
  match loaded with
  | .error e => pure (refusal e)
  | .ok token =>
    match check c r token with
    | .error e => pure (refusal e)
    | .ok () => inner { r with token := some token }

end CsrfFilter
end BrokerGuard
