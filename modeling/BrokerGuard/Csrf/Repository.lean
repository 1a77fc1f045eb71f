import BrokerGuard.Http.Exchange
/-!
# Token repositories

A repository makes tokens from secrets and keeps the token of an HTTP session.  The usual one keeps the token's text under
a name of the session.
-/
namespace BrokerGuard

/-- Makes and keeps tokens. -/
structure TokenRepository where
  generate : String → CsrfToken
  save : CsrfToken → HttpSession → Except CsrfError HttpSession
  load : HttpSession → Option CsrfToken

/-- The settings of a repository that keeps the token in the session. -/
structure SessionTokenSettings where
  key : String := "CSRF_TOKEN"
  headerName : String := CsrfToken.defaultHeader
  parameterName : String := CsrfToken.defaultParameter
  deriving DecidableEq, Repr

namespace TokenRepository

/-- Keeps the token's text under a name of the session. -/
def inSession (settings : SessionTokenSettings) : TokenRepository where
  generate secret := ⟨secret, settings.headerName, settings.parameterName⟩
  save token session := .ok (session.insert settings.key (.string token.value))
  load session :=
    match (session.get? settings.key).bind Json.string? with
    | some value => some ⟨value, settings.headerName, settings.parameterName⟩
    | none => none

/-- A new token. -/
def fresh {ω : Type} (r : TokenRepository) : StateM (Exchange ω) CsrfToken := fun s =>
  (r.generate s.secrets.next, { s with secrets := s.secrets.rest })

/-- Keeps a token in the session of the exchange. -/
def store {ω : Type} (r : TokenRepository) (token : CsrfToken) : StateM (Exchange ω) (Except CsrfError Unit) := fun s =>
  match r.save token s.session with
  | .ok session => (.ok (), { s with session := session })
  | .error e => (.error e, s)

/-- The token of the session; a new one is made and kept when there is none. -/
def loadOrGenerate {ω : Type} (r : TokenRepository) : StateM (Exchange ω) (Except CsrfError CsrfToken) := do
  let s ← get
  match r.load s.session with
  | some token => pure (.ok token)
  | none => do
    let token ← r.fresh
    let stored ← r.store token
    match stored with
    | .ok () => pure (.ok token)
    | .error e => pure (.error e)

end TokenRepository
end BrokerGuard
