import BrokerGuard.Broker
import BrokerGuard.Proofs.Components.Entries
import BrokerGuard.Proofs.Endpoint.Mapping
import Mathlib.Logic.Function.Iterate
/-!
# Startup — the handlers of registered endpoints

Every handler of a mapping of endpoints is the handler of one of them (`HandlerMapping.serves_ofEndpoints`).  So
startup finds nothing to object to, and leaves the mapping with the interceptor for the token in front of every chain
(`BrokerSecurity.afterStartup_registerEndpoints`).
-/
namespace BrokerGuard

namespace HandlerMapping

variable {ω : Type}

/-- Every handler of the mapping is the handler of one of the endpoints. -/
def Serves (mapping : HandlerMapping ω) (endpoints : List (Endpoint ω)) : Prop :=
  ∀ entry ∈ mapping.entries, ∃ e ∈ endpoints, entry.2 = e.handler

/-- **A mapping of endpoints holds nothing but their handlers.** -/
theorem serves_ofEndpoints (endpoints : List (Endpoint ω)) : (ofEndpoints endpoints).Serves endpoints := by
  intro entry hentry
  rw [entries_ofEndpoints] at hentry
  obtain ⟨⟨pattern, e⟩, hbound, rfl⟩ := List.mem_map.1 hentry
  exact ⟨e, Endpoint.mem_of_mem_registrations (Bindings.mem_bindAll_iff.1 hbound).mem, rfl⟩

end HandlerMapping

namespace BrokerSecurity

variable {ω : Type}

theorem examine_handler (mappingName : String) (e : Endpoint ω) : examine mappingName e.handler = .ok () := by
  unfold Endpoint.handler
  by_cases hkind : e.sockJs = true
  · rw [if_pos hkind]
    rfl
  · rw [if_neg hkind]
    rfl

theorem examineAll_ok {mappingName : String} :
    ∀ {entries : List (Pattern.Ant × EndpointHandler ω)}, (∀ entry ∈ entries, examine mappingName entry.2 = .ok ()) →
      examineAll mappingName entries = .ok ()
  | [], _ => rfl
  | entry :: rest, h => by
    have hrest := examineAll_ok fun entry' hentry' => h entry' (List.mem_cons_of_mem entry hentry')
    unfold examineAll
    rw [h entry List.mem_cons_self]
    exact hrest

/-- The handler of an endpoint that startup has run on: its chain is as before, behind the interceptor for the token. -/
theorem handshake_iterate (e : Endpoint ω) (times : Nat) :
    (withTokenInterceptor^[times] e.handler).handshake =
      Handshake.run (List.replicate times (.csrfToken (.inSession {})) ++ e.chain) := by
  have hhandler : withTokenInterceptor^[times] e.handler =
      (if e.sockJs then .sockJs (.transports (List.replicate times (.csrfToken (.inSession {})) ++ e.chain))
        else .webSocket (List.replicate times (.csrfToken (.inSession {})) ++ e.chain)) := by
    induction times with
    | zero => rfl
    | succ times ih =>
      rw [Function.iterate_succ_apply', ih]
      cases e.sockJs <;> rfl
  rw [hhandler]
  cases e.sockJs <;> rfl

/-- The handshake of an endpoint after startup: the token is copied, and then the endpoint's own chain runs. -/
theorem handshake_withTokenInterceptor (e : Endpoint ω) :
    (withTokenInterceptor e.handler).handshake = Handshake.run (.csrfToken (.inSession {}) :: e.chain) :=
  handshake_iterate e 1

/-- **Startup succeeds on registered endpoints**, and the mapping is then the one of the endpoints with the interceptor for
the token in front of every chain. -/
theorem afterStartup_registerEndpoints {b : BrokerSecurity ω} (hsame : b.configurer.sameOriginEnforced = true)
    (context : ComponentContext ω) :
    ∃ patched, b.afterStartup (b.registerEndpoints context) = .ok patched ∧
      patched.get b.settings.mappingName .handlerMapping = .ok (patch (.ofEndpoints b.configurer.endpoints)) := by
  have hget : (b.registerEndpoints context).get b.settings.mappingName .handlerMapping =
      .ok (HandlerMapping.ofEndpoints b.configurer.endpoints) :=
    TypedContext.get_register_self context _ _ _
  have hexamine :
      examineAll b.settings.mappingName (HandlerMapping.ofEndpoints b.configurer.endpoints).entries = .ok () := by
    refine examineAll_ok fun entry hentry => ?_
    obtain ⟨e, -, heq⟩ := HandlerMapping.serves_ofEndpoints b.configurer.endpoints entry hentry
    rw [heq]
    exact examine_handler _ e
  refine ⟨_, ?_, TypedContext.get_register_self (b.registerEndpoints context) b.settings.mappingName .handlerMapping _⟩
  unfold afterStartup
  rw [if_pos hsame, hget]
  simp only [hexamine]

end BrokerSecurity
end BrokerGuard
