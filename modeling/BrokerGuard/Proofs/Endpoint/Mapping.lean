import BrokerGuard.Endpoint.Mapping
import BrokerGuard.Proofs.Bindings
/-!
# Mappings of endpoints — the last registration of a pattern counts

Endpoints are registered path by path, and several of them may come to one pattern.  Read as a history of registrations, a
mapping of endpoints has every pattern once, with the handler of the endpoint that registered it last
(`HandlerMapping.entries_ofEndpoints`).
-/
namespace BrokerGuard

open Bindings (bindIn bindAll)

variable {ω : Type}

namespace Endpoint

/-- What endpoints register, path by path: a pattern and the endpoint. -/
def registrations (endpoints : List (Endpoint ω)) : List (String × Endpoint ω) :=
  endpoints.flatMap fun e => e.paths.map fun path => (e.pattern path, e)

/-- The entry of a mapping for a registration. -/
def entry (registration : String × Endpoint ω) : Pattern.Ant × EndpointHandler ω :=
  (.ofSource registration.1, registration.2.handler)

theorem mem_of_mem_registrations {endpoints : List (Endpoint ω)} {pattern : String} {e : Endpoint ω}
    (h : (pattern, e) ∈ registrations endpoints) : e ∈ endpoints := by
  obtain ⟨e', he', hpath⟩ := List.mem_flatMap.1 h
  obtain ⟨path, -, heq⟩ := List.mem_map.1 hpath
  obtain ⟨-, rfl⟩ := Prod.mk.inj heq
  exact he'

end Endpoint

namespace HandlerMapping

theorem registerIn_map_entry (pattern : String) (e : Endpoint ω) : ∀ registered : List (String × Endpoint ω),
    registerIn pattern e.handler (registered.map Endpoint.entry) = (bindIn pattern e registered).map Endpoint.entry
  | [] => rfl
  | (p, old) :: rest => by
    have ih := registerIn_map_entry pattern e rest
    have hsource : (Endpoint.entry (p, old)).1.source = p := rfl
    unfold bindIn
    by_cases hp : p = pattern
    · subst hp
      rw [if_pos rfl, List.map_cons, registerIn, if_pos hsource]
      rfl
    · rw [if_neg hp, List.map_cons, registerIn, if_neg (hsource ▸ hp), ih]
      rfl

/-- **A mapping of endpoints has, for every pattern, the handler of the endpoint that registered it last.** -/
theorem entries_ofEndpoints (endpoints : List (Endpoint ω)) :
    (ofEndpoints endpoints).entries = (bindAll (Endpoint.registrations endpoints)).map Endpoint.entry := by
  have hfold : ofEndpoints endpoints =
      (Endpoint.registrations endpoints).foldl (fun m r => m.register r.1 r.2.handler) {} := by
    unfold ofEndpoints Endpoint.registrations
    rw [List.foldl_flatMap]
    simp only [List.foldl_map]
  rw [hfold]
  generalize Endpoint.registrations endpoints = history
  induction history using List.reverseRecOn with
  | nil => rfl
  | append_singleton history last ih =>
    rw [List.foldl_append, Bindings.bindAll_concat, ← registerIn_map_entry, ← ih]
    rfl

end HandlerMapping
end BrokerGuard
