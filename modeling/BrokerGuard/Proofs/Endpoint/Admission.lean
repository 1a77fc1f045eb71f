import BrokerGuard.Proofs.Broker.Startup
import BrokerGuard.Proofs.Handshake.Chain
import BrokerGuard.Proofs.Handshake.Origin
/-!
# Admission — a session is opened for an accepted origin only

The check of the origin is the last of an endpoint's chain, behind interceptors of the application that may do anything.
Registering a pattern again replaces its handler, and startup puts the interceptor for the token in front, perhaps more than
once.  Through all of this, a handshake that yields session attributes has
passed the whole chain of the endpoint that registered the pattern last (`session_only_for_accepted_origin`).
-/
namespace BrokerGuard

open Bindings (Latest bindAll)

variable {ω : Type}

/-! ## Accepted requests -/

namespace Handshake

/-- Every interceptor of the chain accepts the request, one after the other, from the attributes and the exchange that the
former one left. -/
inductive Accepted (request : HttpRequest) : List (HandshakeInterceptor ω) → SessionAttributes → Exchange ω →
    SessionAttributes → Exchange ω → Prop
  | nil (attributes : SessionAttributes) (s : Exchange ω) : Accepted request [] attributes s attributes s
  | cons {i : HandshakeInterceptor ω} {rest : List (HandshakeInterceptor ω)} {attributes accepted answer : SessionAttributes}
    {s t u : Exchange ω} (hi : i.before request attributes s = (.accept accepted, t))
    (hrest : Accepted request rest accepted t answer u) : Accepted request (i :: rest) attributes s answer u

/-- **A chain that yields attributes was accepted by each of its interceptors.** -/
theorem accepted_of_runFrom {request : HttpRequest} {answer : SessionAttributes} :
    ∀ (chain : List (HandshakeInterceptor ω)) {attributes : SessionAttributes} {s s' : Exchange ω},
      runFrom request chain attributes s = (.ok answer, s') → ∃ t, Accepted request chain attributes s answer t
  | [], _, s, _, h => by
    cases h
    exact ⟨s, .nil _ s⟩
  | i :: rest, _, _, _, h => by
    obtain ⟨accepted, t, t', hi, hrest⟩ := runFrom_cons_ok h
    obtain ⟨u, hu⟩ := accepted_of_runFrom rest hrest
    exact ⟨u, .cons hi hu⟩

/-- An accepted chain that ends with the check of the origin: the check found nothing, and left everything as it was. -/
theorem Accepted.of_concat_origin {request : HttpRequest} {policy : OriginPolicy} {answer : SessionAttributes} {u : Exchange ω} :
    ∀ {chain : List (HandshakeInterceptor ω)} {attributes : SessionAttributes} {s : Exchange ω},
      Accepted request (chain ++ [.origin policy]) attributes s answer u →
        policy.check request = .ok () ∧ Accepted request chain attributes s answer u
  | [], attributes, s, h => by
    cases h with
    | cons hi hrest =>
      cases hrest
      unfold HandshakeInterceptor.origin at hi
      cases hcheck : policy.check request with
      | error e => simp only [hcheck] at hi; cases hi
      | ok _ =>
        simp only [hcheck] at hi
        cases hi
        exact ⟨rfl, .nil _ _⟩
  | i :: rest, attributes, s, h => by
    cases h with
    | cons hi hrest =>
      obtain ⟨hcheck, haccepted⟩ := of_concat_origin hrest
      exact ⟨hcheck, .cons hi haccepted⟩

end Handshake

/-! ## After startup -/

namespace BrokerSecurity

open HandlerMapping (ofEndpoints)

theorem entries_iterate_patch (mapping : HandlerMapping ω) : ∀ times : Nat,
    (patch^[times] mapping).entries = mapping.entries.map fun e => (e.1, withTokenInterceptor^[times] e.2)
  | 0 => by simp
  | times + 1 => by
    have ih := entries_iterate_patch mapping times
    rw [Function.iterate_succ_apply']
    unfold patch at ih ⊢
    simp only [ih, List.map_map, Function.comp_def, Function.iterate_succ_apply']

/-- **No session for a rejected origin.**  When the handler that a mapping of endpoints selects for a path yields session
attributes, the origin policy of the endpoint that registered the selected pattern last accepts the request, and so did
every interceptor of this endpoint, in order: before startup and after it, for every sequence of endpoints and whatever
their interceptors do. -/
theorem session_only_for_accepted_origin {endpoints : List (Endpoint ω)} {times : Nat} {path : String}
    {handler : EndpointHandler ω} (hselected : (patch^[times] (ofEndpoints endpoints)).handler? path = some handler)
    {request : HttpRequest} {s s' : Exchange ω} {attributes : SessionAttributes}
    (hsession : handler.handshake request s = (.ok attributes, s')) :
    ∃ pattern e,
      (patch^[times] (ofEndpoints endpoints)).patterns.find? (fun p => (Pattern.Ant.ofSource p).accepts path) =
        some pattern ∧
      Latest (Endpoint.registrations endpoints) pattern e ∧
      (OriginPolicy.ofList e.allowedOrigins).check request = .ok () ∧
      ∃ t, Handshake.Accepted request (List.replicate times (.csrfToken (.inSession {})) ++ e.interceptors) {} s
        attributes t := by
  have hentries : (patch^[times] (ofEndpoints endpoints)).entries =
      (bindAll (Endpoint.registrations endpoints)).map fun r =>
        (Pattern.Ant.ofSource r.1, withTokenInterceptor^[times] r.2.handler) := by
    rw [entries_iterate_patch, HandlerMapping.entries_ofEndpoints, List.map_map]
    rfl
  unfold HandlerMapping.handler? at hselected
  unfold HandlerMapping.patterns
  rw [hentries, List.find?_map, Option.map_map] at hselected
  obtain ⟨⟨pattern, e⟩, hfind, rfl⟩ := Option.map_eq_some_iff.1 hselected
  refine ⟨pattern, e, ?_, Bindings.mem_bindAll_iff.1 (List.mem_of_find?_eq_some hfind), ?_⟩
  · rw [hentries, List.map_map, List.find?_map]
    exact Option.map_eq_some_iff.2 ⟨_, hfind, rfl⟩
  · have hrun : Handshake.runFrom request
        ((List.replicate times (.csrfToken (.inSession {})) ++ e.interceptors) ++ [.origin (.ofList e.allowedOrigins)]) {} s =
          (.ok attributes, s') := by
      rw [List.append_assoc, ← hsession]
      exact (congrFun (congrFun (handshake_iterate e times) request) s).symm
    obtain ⟨t, haccepted⟩ := Handshake.accepted_of_runFrom _ hrun
    obtain ⟨hcheck, hinterceptors⟩ := haccepted.of_concat_origin
    exact ⟨hcheck, t, hinterceptors⟩

/-- Counts the requests that it sees. -/
def counting : HandshakeInterceptor Nat where
  name := "counting"
  before _ attributes := fun s => (.accept attributes, { s with world := s.world + 1 })

/-- Two endpoints on one path, of which the later one is the stricter. -/
def overlapping : List (Endpoint Nat) :=
  [{ paths := ["/ws", "/feed"], allowedOrigins := ["*"] },
    { paths := ["/ws"], allowedOrigins := ["https://app.example"], interceptors := [counting] }]

/-- The chain of the stricter endpoint after startup. -/
def stricter : List (HandshakeInterceptor Nat) :=
  [.csrfToken (.inSession {}), counting, .origin (.ofList ["https://app.example"])]

theorem session_only_for_accepted_origin_overlapping :
    ∃ (request : HttpRequest) (s s' : Exchange Nat),
      (patch^[1] (ofEndpoints overlapping)).handler? "/ws" = some (.webSocket stricter) ∧
      (EndpointHandler.webSocket stricter).handshake request s = (.ok {}, s') ∧
      ∃ pattern e,
        (patch^[1] (ofEndpoints overlapping)).patterns.find? (fun p => (Pattern.Ant.ofSource p).accepts "/ws") =
          some pattern ∧
        Latest (Endpoint.registrations overlapping) pattern e ∧
        (OriginPolicy.ofList e.allowedOrigins).check request = .ok () ∧
        ∃ t, Handshake.Accepted request (List.replicate 1 (.csrfToken (.inSession {})) ++ e.interceptors) {} s {} t := by
  have hselected : (patch^[1] (ofEndpoints overlapping)).handler? "/ws" = some (.webSocket stricter) := rfl
  -- the origin of the request is the one that the stricter endpoint allows
  have htext : (OriginPolicy.requestFrom "https://app.example/").headerText? "origin" = some "https://app.example/" := by
    decide +kernel
  have hallows : (OriginPolicy.ofList ["https://app.example"]).allows "https://app.example/" = true := by decide +kernel
  have hcheck : (OriginPolicy.ofList ["https://app.example"]).check (OriginPolicy.requestFrom "https://app.example/") =
      .ok () :=
    ((OriginPolicy.check_of_text rfl htext).resolve_right fun h => h.1 (.inr hallows)).2
  have hsession : (EndpointHandler.webSocket stricter).handshake (OriginPolicy.requestFrom "https://app.example/")
      { ambient := none, world := 0, secrets := .counted 0 } =
        (.ok {}, { ambient := none, world := 1, secrets := .counted 0 }) := by
    simp only [EndpointHandler.handshake, Handshake.run, stricter, Handshake.runFrom, HandshakeInterceptor.origin, hcheck]
    rfl
  exact ⟨_, _, _, hselected, hsession, session_only_for_accepted_origin hselected hsession⟩

end BrokerSecurity
end BrokerGuard
