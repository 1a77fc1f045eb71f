import BrokerGuard.Handshake.Origin
import BrokerGuard.Proofs.Message.Attributes
/-!
# Handshake chains — what happens to one attribute

An interceptor that keeps an attribute accepts no request with another value of it (`Keeps`).  A chain of such interceptors
answers the value that it was given (`get?_of_runFrom`), and so does a chain in front of which the token is copied answer
the token of the request (`get?_of_run_csrfToken`).
-/
namespace BrokerGuard
namespace HandshakeInterceptor

variable {ω : Type}

/-- Whatever the interceptor accepts, it neither inserts, changes nor removes the attribute. -/
def Keeps (i : HandshakeInterceptor ω) (name : String) : Prop :=
  ∀ request attributes s attributes' s', i.before request attributes s = (.accept attributes', s') →
    attributes'.get? name = attributes.get? name

theorem keeps_origin (policy : OriginPolicy) (name : String) : (origin policy : HandshakeInterceptor ω).Keeps name := by
  intro request attributes s attributes' s' h
  unfold origin at h
  cases hcheck : policy.check request with
  | ok _ =>
    simp only [hcheck] at h
    cases h
    rfl
  | error e =>
    simp only [hcheck] at h
    cases h

end HandshakeInterceptor

namespace Handshake

variable {ω : Type} {request : HttpRequest}

/-- An answer of a chain comes from its first interceptor, which accepted, and the rest of the chain. -/
theorem runFrom_cons_ok {i : HandshakeInterceptor ω} {rest : List (HandshakeInterceptor ω)}
    {attributes answer : SessionAttributes} {s s' : Exchange ω}
    (h : runFrom request (i :: rest) attributes s = (.ok answer, s')) :
    ∃ accepted t t', i.before request attributes s = (.accept accepted, t) ∧
      runFrom request rest accepted t = (.ok answer, t') := by
  rcases hi : i.before request attributes s with ⟨accepted | _ | e, t⟩
  · refine ⟨accepted, t, (runFrom request rest accepted t).2, rfl, ?_⟩
    have houtcome : (runFrom request rest accepted t).1 = .ok answer := by
      rw [runFrom] at h
      simp only [bind, StateT.bind, hi] at h
      exact congrArg Prod.fst h
    rw [← houtcome]
    rfl
  · rw [runFrom] at h
    simp only [bind, StateT.bind, hi] at h
    cases h
  · rw [runFrom] at h
    simp only [bind, StateT.bind, hi] at h
    cases h

/-- **A chain keeps what each of its interceptors keeps.** -/
theorem get?_of_runFrom {name : String} :
    ∀ (chain : List (HandshakeInterceptor ω)), (∀ i ∈ chain, i.Keeps name) →
      ∀ {attributes answer : SessionAttributes} {s s' : Exchange ω},
        runFrom request chain attributes s = (.ok answer, s') → answer.get? name = attributes.get? name
  | [], _, _, _, _, _, h => by cases h; rfl
  | i :: rest, hkeeps, _, _, _, _, h => by
    obtain ⟨accepted, t, t', hi, hrest⟩ := runFrom_cons_ok h
    have hfirst := hkeeps i List.mem_cons_self _ _ _ _ _ hi
    have ih := get?_of_runFrom rest (fun j hj => hkeeps j (List.mem_cons_of_mem i hj)) hrest
    exact ih.trans hfirst

/-- A chain that begins by copying the token answers the token of the request in its stored form, and no value when the
request has none. -/
theorem get?_of_run_csrfToken {repository : TokenRepository} {chain : List (HandshakeInterceptor ω)}
    (hkeeps : ∀ i ∈ chain, i.Keeps CsrfToken.attributeName) {answer : SessionAttributes} {s s' : Exchange ω}
    (h : run (.csrfToken repository :: chain) request s = (.ok answer, s')) :
    answer.get? CsrfToken.attributeName =
      (HandshakeInterceptor.requestToken? repository request s.session).map CsrfToken.toJson := by
  obtain ⟨accepted, t, t', hcopy, hrest⟩ := runFrom_cons_ok h
  have hkept := get?_of_runFrom chain hkeeps hrest
  unfold HandshakeInterceptor.csrfToken at hcopy
  cases htoken : HandshakeInterceptor.requestToken? repository request s.session with
  | none =>
    simp only [htoken] at hcopy
    cases hcopy
    rw [hkept]
    rfl
  | some token =>
    simp only [htoken] at hcopy
    cases hcopy
    rw [hkept, SessionAttributes.get?_insert_self]
    rfl

end Handshake
end BrokerGuard
