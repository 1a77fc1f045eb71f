import BrokerGuard.Proofs.Broker.Startup
import BrokerGuard.Proofs.Channel.TokenCheck
import BrokerGuard.Proofs.Handshake.Chain
/-!
# Token transfer — from the request of the handshake to the connecting message

The handshake copies the token of the request to the session attributes, in stored form, and the channel reads it back when
the client connects.  `token_reaches_connect` joins the two ends: what the channel demands of a connecting client is
exactly the token that the request of its handshake had.
-/
namespace BrokerGuard

variable {ω : Type}

/-- The token of a request: the one attached to it, else one of the usual names whose text is in the session. -/
def HttpRequest.presentedToken? (request : HttpRequest) (session : HttpSession) : Option CsrfToken :=
  request.token.or (((session.get? "CSRF_TOKEN").bind Json.string?).map CsrfToken.ofValue)

theorem HandshakeInterceptor.requestToken?_inSession (request : HttpRequest) (session : HttpSession) :
    requestToken? (.inSession {}) request session = request.presentedToken? session := by
  unfold requestToken? HttpRequest.presentedToken?
  cases request.token with
  | some token => rfl
  | none =>
    rw [Option.none_or]
    simp only [TokenRepository.inSession]
    cases (session.get? "CSRF_TOKEN").bind Json.string? with
    | none => rfl
    | some value => rfl

/-- What the check of the token comes to on a message that connects, given the token that its client has to repeat. -/
structure ChannelInterceptor.Demands (token? : Option CsrfToken) (m : Message)
    (outcome : Except MessageError Unit) : Prop where
  missing : token? = none → outcome = .error .missingCsrfToken
  repeated : ∀ token, token? = some token → (outcome = .ok () ↔ m.firstHeader? token.headerName = some token.value)
  differs : ∀ token, token? = some token → m.firstHeader? token.headerName ≠ some token.value →
    outcome = .error (.invalidCsrfToken token.headerName)

theorem ChannelInterceptor.demands_checkToken {m : Message} (htype : m.type = .connect) :
    Demands (sessionToken? m) m (checkToken m) where
  missing hnone := checkToken_of_missing htype hnone
  repeated token hsome := by
    refine ⟨fun hok => Classical.byContradiction fun hne => ?_, checkToken_of_repeats htype hsome⟩
    rw [checkToken_of_differs htype hsome hne] at hok
    cases hok
  differs _ hsome hne := checkToken_of_differs htype hsome hne

namespace BrokerSecurity

/-- **The token travels from the handshake to the channel.**  After startup, a client that connects with the attributes of a
handshake has to repeat the token of the handshake's request, and if there was none, it cannot connect: for every set of
endpoints whose interceptors leave the attribute of the token alone. -/
theorem token_reaches_connect {b : BrokerSecurity ω} (hsame : b.configurer.sameOriginEnforced = true)
    (hkeeps : ∀ e ∈ b.configurer.endpoints, ∀ i ∈ e.interceptors, i.Keeps CsrfToken.attributeName)
    (context : ComponentContext ω) :
    ∃ patched mapping, b.afterStartup (b.registerEndpoints context) = .ok patched ∧
      patched.get b.settings.mappingName .handlerMapping = .ok mapping ∧
      ∀ entry ∈ HandlerMapping.entries mapping, ∀ request s attributes s',
        entry.2.handshake request s = (.ok attributes, s') →
        ∀ (m : Message) (t : Surroundings ω), m.type = .connect → m.attributes = attributes →
          ∃ outcome, ChannelInterceptor.csrf.preSend m t = ((m, outcome), t) ∧
            ChannelInterceptor.Demands (request.presentedToken? s.session) m outcome := by
  obtain ⟨patched, hstartup, hget⟩ := afterStartup_registerEndpoints hsame context
  refine ⟨patched, _, hstartup, hget, fun entry hentry request s attributes s' hshake m t htype hattributes => ?_⟩
  -- the handler is that of an endpoint, with the interceptor for the token in front
  obtain ⟨entry, hregistered, rfl⟩ := List.mem_map.1 hentry
  obtain ⟨e, he, hhandler⟩ := HandlerMapping.serves_ofEndpoints _ entry hregistered
  have hchain : ∀ i ∈ e.chain, i.Keeps CsrfToken.attributeName := by
    intro i hi
    rcases List.mem_append.1 hi with hi | hi
    · exact hkeeps e he i hi
    · rw [List.mem_singleton.1 hi]
      exact HandshakeInterceptor.keeps_origin _ _
  rw [hhandler, handshake_withTokenInterceptor] at hshake
  have hstored := Handshake.get?_of_run_csrfToken hchain hshake
  rw [HandshakeInterceptor.requestToken?_inSession, ← hattributes] at hstored
  refine ⟨ChannelInterceptor.checkToken m, rfl, ?_⟩
  rw [← ChannelInterceptor.sessionToken?_of_get? hstored]
  exact ChannelInterceptor.demands_checkToken htype

/-- Notes the language of every session. -/
def localizing : HandshakeInterceptor Unit where
  name := "localizing"
  before _ attributes := pure (.accept (attributes.insert "language" (.string "en")))

theorem keeps_localizing : localizing.Keeps CsrfToken.attributeName := by
  intro request attributes s attributes' s' h
  cases h
  exact SessionAttributes.get?_insert_of_ne attributes (by decide) (.string "en")

/-- A broker with an endpoint of either kind. -/
def served : BrokerSecurity Unit where
  configurer := { endpoints := [
    { paths := ["/ws", "/socket"], interceptors := [localizing] },
    { paths := ["/fallback"], allowedOrigins := ["*"], sockJs := true }] }

theorem token_reaches_connect_served :
    ∃ patched mapping, served.afterStartup (served.registerEndpoints {}) = .ok patched ∧
      patched.get served.settings.mappingName .handlerMapping = .ok mapping ∧
      ∀ entry ∈ HandlerMapping.entries mapping, ∀ request s attributes s',
        entry.2.handshake request s = (.ok attributes, s') →
        ∀ (m : Message) (t : Surroundings Unit), m.type = .connect → m.attributes = attributes →
          ∃ outcome, ChannelInterceptor.csrf.preSend m t = ((m, outcome), t) ∧
            ChannelInterceptor.Demands (request.presentedToken? s.session) m outcome := by
  refine token_reaches_connect rfl (fun e he i hi => ?_) {}
  rcases List.mem_cons.1 he with rfl | he
  · rw [List.mem_singleton.1 hi]
    exact keeps_localizing
  · cases List.mem_singleton.1 he
    exact absurd hi List.not_mem_nil

end BrokerSecurity
end BrokerGuard
