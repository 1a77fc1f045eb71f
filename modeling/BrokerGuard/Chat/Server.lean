import BrokerGuard.Chat.Basic
import BrokerGuard.Http.UrlSecurity
/-!
# The chat's server

The routes of the chat: the token of the session as JSON, a page for administrators, and the endpoints, where a handshake
opens a socket whose frames the chat answers.
-/
namespace BrokerGuard
namespace Chat

/-- The URL rules of the chat. -/
def urlRules : RuleMap RequestKey :=
  RuleMap.ofList
    [(.ant "/admin/**" none, [.raw "hasRole('ADMIN')"]),
     (.ant "/ws" none, [.raw "isAuthenticated()"]),
     (.ant "/sockjs/**" none, [.raw "isAuthenticated()"]),
     (.ant "/**" none, [.raw "permitAll()"])]

/-- The user that the header `X-User` names. -/
def headerAuthenticator : Authenticator := fun r => (r.headerText? "x-user").bind user?

/-- The page of the session's token. -/
def tokenPage (r : HttpRequest) : HttpResponse :=
  match r.token with
  | some token => { status := 200, body := .text (Json.compact (.object token.fields)) }
  | none => { status := 500, body := .text "CSRF protection is not installed" }

/-- The page for administrators. -/
def dashboard (user : Option User) : HttpResponse :=
  let name := match user with
    | some user => user.username
    | none => ""
  { status := 200, body := .text ("Welcome to the admin dashboard, " ++ name ++ "!") }

/-- Answers frames in order and closes the socket after the last. -/
def answers (state : State Unit) (sessionId : String) (attributes : SessionAttributes) (user : Option User) :
    List ClientFrame → List ServerFrame
  | [] => [.close]
  | .ping payload :: rest => .pong payload :: answers state sessionId attributes user rest
  | .text text :: rest =>
    let (reply, _) := handleFrame state.channel text sessionId attributes user ⟨none, ()⟩
    .text reply.text :: answers state sessionId attributes user rest

/-- Answers the frames of a socket.  They arrive together and are read before the first is answered, so that after an
unsound one there is nothing left but to close. -/
def converse (state : State Unit) (sessionId : String) (attributes : SessionAttributes) (user : Option User)
    (frames : List ClientFrame) : List ServerFrame :=
  if frames.all ClientFrame.isSound then answers state sessionId attributes user frames else [.close]

/-- Opens a socket after a successful handshake. -/
def connect (state : State Unit) : Service Unit := fun r =>
  match state.endpoints.handler? r.path with
  | none => pure (HandshakeError.response (.noHandler r.path))
  | some handler => do
    let outcome ← handler.handshake r
    match outcome with
    | .error e => pure e.response
    | .ok attributes =>
      match r.socketRefusal? with
      | none => pure { status := 101, body := .socket (converse state "1" attributes r.user) }
      | some status => pure { status := status }

/-- The path by which a route is chosen: escapes of ASCII characters are decoded, those of a percent sign, a slash and a
plus sign excepted. -/
def routePath : List Char → List Char
  | '%' :: a :: b :: rest =>
    match Json.hexDigit? a, Json.hexDigit? b with
    | some high, some low =>
      let n := high * 16 + low
      let c := Char.ofNat n
      if n < 128 ∧ c ≠ '%' ∧ c ≠ '/' ∧ c ≠ '+' then c :: routePath rest else '%' :: a :: b :: routePath rest
    | _, _ => '%' :: routePath (a :: b :: rest)
  | c :: rest => c :: routePath rest
  | [] => []

/-- The routes of the chat. -/
def routes (state : State Unit) : Service Unit := fun r =>
  let path := routePath r.path.toList
  if r.method ≠ "GET" then pure { status := 404 }
  else if path = "/csrf".toList then pure (tokenPage r)
  else if path = "/admin/dashboard".toList then do
    let user ← Exchange.lift Surroundings.currentUser
    pure (dashboard user)
  else if path = "/ws".toList ∨ "/sockjs/".toList.isPrefixOf path then connect state r
  else pure { status := 404 }

end Chat
end BrokerGuard
