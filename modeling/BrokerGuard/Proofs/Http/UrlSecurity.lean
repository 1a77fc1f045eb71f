import BrokerGuard.Http.UrlSecurity
import BrokerGuard.Proofs.Access.UrlRules
import BrokerGuard.Proofs.Http.Arrivals
/-!
# URL security — what a guarded service gets to see

Between the authenticator, which finds the user of a request, and the service stand the rules for URLs.
`guard_follows_rules` says, for all rules that can be inserted into a map, when there is a guard for them, which requests it
lets through, and as whom the service behind it runs.
-/
namespace BrokerGuard
namespace UrlSecurity

open RuleMap (Carries Permits)

variable {ω : Type}

/-- What comes of a request of a user: what reached the service, the response, and the exchange afterwards.  A request that
reaches the service carries the user and finds it as the ambient one; the identity in front of the guard stays as it was. -/
structure Guarded (map : RuleMap RequestKey) (user : Option User) (inner : Service ω) (r : HttpRequest) (s : Exchange ω)
    (arrivals : List Arrival) (outcome : HttpResponse × Exchange ω) : Prop where
  forwarded : map.Permits user r.target → ∃ request, arrivals = [⟨request, user⟩] ∧
    request = { r with user := user.or r.user } ∧ (r.user = none → request.user = user) ∧
    outcome = ((inner request { s with ambient := some ⟨user, []⟩ }).1,
      { (inner request { s with ambient := some ⟨user, []⟩ }).2 with ambient := s.ambient })
  unauthorized : ¬ map.Permits user r.target → user = none → arrivals = [] ∧ outcome = ({ status := 401 }, s)
  forbidden : ∀ u, ¬ map.Permits user r.target → user = some u → arrivals = [] ∧ outcome = ({ status := 403 }, s)

theorem attachUser_eq (r : HttpRequest) (user : Option User) : attachUser r user = { r with user := user.or r.user } := by
  cases user with
  | none => rfl
  | some user => rfl

theorem target_attachUser (r : HttpRequest) (user : Option User) : (attachUser r user).target = r.target := by
  rw [attachUser_eq]
  rfl

theorem admits_iff (authorizer : UrlAuthorizer) (user : Option User) (r : HttpRequest) :
    admits (some authorizer) user r = true ↔ authorizer.decide user r.target = .ok () := by
  unfold admits
  dsimp only
  cases authorizer.decide user r.target with
  | ok _ => simp
  | error e => simp

section Guard

variable {authenticator : Option Authenticator} {authorizer : Option UrlAuthorizer} {user : Option User} {r : HttpRequest}

theorem guard_of_admits (huser : (authenticator.bind fun find => find r) = user)
    (h : admits authorizer user (attachUser r user) = true) (inner : Service ω) (s : Exchange ω) :
    guard authenticator authorizer inner r s =
      ((inner (attachUser r user) { s with ambient := some ⟨user, []⟩ }).1,
        { (inner (attachUser r user) { s with ambient := some ⟨user, []⟩ }).2 with ambient := s.ambient }) := by
  unfold guard
  rw [huser, if_pos h]
  rfl

theorem guard_of_not_admits (huser : (authenticator.bind fun find => find r) = user)
    (h : ¬ admits authorizer user (attachUser r user) = true) (inner : Service ω) (s : Exchange ω) :
    guard authenticator authorizer inner r s = (refusal user, s) := by
  unfold guard
  rw [huser, if_neg h]
  rfl

end Guard

theorem guarded_guard {map : RuleMap RequestKey} {authorizer : UrlAuthorizer} (hnodup : map.keys.Nodup)
    (h : UrlAuthorizer.ofMap map = .ok authorizer) (authenticator : Option Authenticator) (inner : Service ω)
    (r : HttpRequest) (s : Exchange ω) : ∃ arrivals,
      guard authenticator (some authorizer) (Service.noting inner) r (s.withArrivals []) =
        ((guard authenticator (some authorizer) inner r s).1,
          (guard authenticator (some authorizer) inner r s).2.withArrivals arrivals) ∧
      Guarded map (authenticator.bind fun find => find r) inner r s arrivals
        (guard authenticator (some authorizer) inner r s) := by
  generalize huser : (authenticator.bind fun find => find r) = user
  have hadmits : admits (some authorizer) user (attachUser r user) = true ↔ map.Permits user r.target := by
    rw [admits_iff, target_attachUser]
    exact UrlAuthorizer.decide_eq_ok_iff hnodup h user r.target
  by_cases hpermits : map.Permits user r.target
  · have hadmitted := hadmits.2 hpermits
    rw [guard_of_admits huser hadmitted, guard_of_admits huser hadmitted]
    refine ⟨[⟨attachUser r user, user⟩], rfl, ?_⟩
    have hattached : r.user = none → (attachUser r user).user = user := by
      intro hnone
      rw [attachUser_eq, hnone]
      exact Option.or_none
    exact {
      forwarded := fun _ => ⟨_, rfl, attachUser_eq r user, hattached, rfl⟩
      unauthorized := fun hrefused => absurd hpermits hrefused
      forbidden := fun _ hrefused => absurd hpermits hrefused }
  · have hrefused : ¬ admits (some authorizer) user (attachUser r user) = true := fun hok => hpermits (hadmits.1 hok)
    rw [guard_of_not_admits huser hrefused, guard_of_not_admits huser hrefused]
    refine ⟨[], rfl, ?_⟩
    exact {
      forwarded := fun hok => absurd hok hpermits
      unauthorized := fun _ hnone => by rw [hnone]; exact ⟨rfl, rfl⟩
      forbidden := fun u _ hsome => by rw [hsome]; exact ⟨rfl, rfl⟩ }

/-- **URL rules from the map to the service.**  A map that was filled by insertions has an authorizer exactly when each of
its keys carries one expression, read or to be read.  Then, whatever finds the users and whatever the service does, a
request reaches the service if no key applies to it or the expression of the first one that does is true for its user;
the service runs on behalf of the user, and what does not reach it is answered with 401 or 403. -/
theorem guard_follows_rules (history : List (RequestKey × List Attribute)) :
    ((∃ authorizer, UrlAuthorizer.ofMap (.ofList history) = .ok authorizer) ↔
      ∀ entry ∈ (RuleMap.ofList history).entries, ∃ p, Carries .standard entry.2 p) ∧
    ∀ authorizer, UrlAuthorizer.ofMap (.ofList history) = .ok authorizer →
      ∀ (authenticator : Option Authenticator) (inner : Service ω) (r : HttpRequest) (s : Exchange ω), ∃ arrivals,
        guard authenticator (some authorizer) (Service.noting inner) r (s.withArrivals []) =
          ((guard authenticator (some authorizer) inner r s).1,
            (guard authenticator (some authorizer) inner r s).2.withArrivals arrivals) ∧
        Guarded (.ofList history) (authenticator.bind fun find => find r) inner r s arrivals
          (guard authenticator (some authorizer) inner r s) := by
  have hnodup : (RuleMap.ofList history).keys.Nodup := (RuleMap.follows_ofList history RequestKey.applies).distinct
  exact ⟨UrlAuthorizer.ofMap_ok_iff hnodup, fun authorizer h => guarded_guard hnodup h⟩

/-- Knows everybody who gives a name. -/
def byName : Authenticator := fun r => (r.headerText? "X-User").map User.named

/-- Rules of which one was replaced and one was read before. -/
def urlRules : List (RequestKey × List Attribute) :=
  [(.ant "/admin/**" none, [.raw "denyAll()"]), (.ant "/api/**" (some "POST"), [.raw "hasRole('EDITOR') or isOwner()"]),
    (.ant "/admin/**" none, [.raw "hasRole('ADMIN')"]), (.ant "/api/**" none, [.parsed ⟨"true", .literal true⟩])]

theorem guard_follows_rules_replaced :
    ∃ authorizer, UrlAuthorizer.ofMap (.ofList urlRules) = .ok authorizer ∧
      ∀ (inner : Service Nat) (r : HttpRequest) (s : Exchange Nat), ∃ arrivals,
        guard (some byName) (some authorizer) (Service.noting inner) r (s.withArrivals []) =
          ((guard (some byName) (some authorizer) inner r s).1,
            (guard (some byName) (some authorizer) inner r s).2.withArrivals arrivals) ∧
        Guarded (.ofList urlRules) (byName r) inner r s arrivals (guard (some byName) (some authorizer) inner r s) := by
  obtain ⟨authorizer, h⟩ : ∃ authorizer, UrlAuthorizer.ofMap (.ofList urlRules) = .ok authorizer := ⟨_, rfl⟩
  exact ⟨authorizer, h, (guard_follows_rules urlRules).2 authorizer h (some byName)⟩

end UrlSecurity
end BrokerGuard
