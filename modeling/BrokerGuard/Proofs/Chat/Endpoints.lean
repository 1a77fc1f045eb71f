import BrokerGuard.Chat.Server
import BrokerGuard.Proofs.Broker.Startup
import BrokerGuard.Proofs.Chat.Policy
import BrokerGuard.Proofs.Http.UrlSecurity
/-!
# Endpoints — no handshake without a user

The chat has two lists of patterns that know nothing of each other: the endpoints, as the mapping of handlers has them, and
the rules for URLs, of which the last one permits everything.  `endpoints_demand_user` says that they fit together.  A path
has a handler exactly when it is `ws` or begins with `sockjs`, by its parts, however many slashes are written
(`reached_iff`); and for such a path the rule that decides is one of the two that ask for a user (`governs_of_reached`).
-/
namespace BrokerGuard

variable {ω : Type}

theorem TypedContext.exists_remove_of_get {κ : Type} {Carrier : κ → Type} [DecidableEq κ] {c : TypedContext κ Carrier}
    {name : String} {kind : κ} {component : Carrier kind} (h : c.get name kind = .ok component) :
    ∃ rest, c.remove name kind = .ok (component, rest) := by
  unfold remove
  rw [h]
  exact ⟨_, rfl⟩

theorem HandlerMapping.isSome_handler?_iff {mapping : HandlerMapping ω} {path : String} :
    (mapping.handler? path).isSome = true ↔ ∃ pattern ∈ mapping.entries.map Prod.fst, pattern.accepts path = true := by
  unfold handler?
  rw [Option.isSome_map, List.find?_isSome]
  simp

/-! ## After startup -/

namespace BrokerSecurity

/-- What an application runs with: the mapping of its endpoints, patched if the same origin is enforced. -/
def runningMapping (b : BrokerSecurity ω) : HandlerMapping ω :=
  if b.configurer.sameOriginEnforced then patch (.ofEndpoints b.configurer.endpoints) else .ofEndpoints b.configurer.endpoints

theorem exists_afterStartup_get (b : BrokerSecurity ω) (context : ComponentContext ω) :
    ∃ started, b.afterStartup (b.registerEndpoints context) = .ok started ∧
      started.get b.settings.mappingName .handlerMapping = .ok b.runningMapping := by
  unfold runningMapping
  by_cases hsame : b.configurer.sameOriginEnforced = true
  · rw [if_pos hsame]
    exact afterStartup_registerEndpoints hsame context
  · rw [if_neg hsame]
    refine ⟨_, if_neg hsame, ?_⟩
    exact TypedContext.get_register_self context _ _ _

theorem handler?_patch (mapping : HandlerMapping ω) (path : String) :
    (patch mapping).handler? path = (mapping.handler? path).map withTokenInterceptor := by
  unfold patch HandlerMapping.handler?
  rw [List.find?_map, Option.map_map, Option.map_map]
  rfl

/-- **Startup changes handlers and no paths.** -/
theorem isSome_handler?_runningMapping (b : BrokerSecurity ω) (path : String) :
    (b.runningMapping.handler? path).isSome = ((HandlerMapping.ofEndpoints b.configurer.endpoints).handler? path).isSome := by
  unfold runningMapping
  by_cases hsame : b.configurer.sameOriginEnforced = true
  · rw [if_pos hsame, handler?_patch, Option.isSome_map]
  · rw [if_neg hsame]

end BrokerSecurity

namespace Chat

open Pattern (Ant)

/-- An application whose channel can be built starts, with the mapping of its endpoints. -/
theorem start_eq_of_channel {b : BrokerSecurity ω} {channel : InboundChannel ω} (h : b.channel = .ok channel) :
    State.start b = .ok ⟨channel, b.runningMapping⟩ := by
  obtain ⟨started, hstarted, hget⟩ := b.exists_afterStartup_get {}
  obtain ⟨rest, hremove⟩ := TypedContext.exists_remove_of_get hget
  unfold State.start
  rw [h]
  dsimp only
  rw [hstarted]
  dsimp only
  rw [hremove]

/-- The path of an endpoint. -/
def Reached (path : String) : Prop := Names ["ws"] path ∨ Beneath ["sockjs"] path

theorem reached_iff (ω : Type) (sameOriginDisabled : Bool) (path : String) :
    ((security ω sameOriginDisabled).runningMapping.handler? path).isSome = true ↔ Reached path := by
  have hws : (Ant.ofSource "/ws").accepts path = true ↔ Names ["ws"] path := accepts_iff_names rfl
  have hsockjs : (Ant.ofSource "/sockjs/**").accepts path = true ↔ Beneath ["sockjs"] path := accepts_iff_beneath rfl
  have hpatterns : (HandlerMapping.ofEndpoints (configurer ω sameOriginDisabled).endpoints).entries.map Prod.fst =
      [Ant.ofSource "/ws", Ant.ofSource "/sockjs/**"] := rfl
  rw [BrokerSecurity.isSome_handler?_runningMapping, HandlerMapping.isSome_handler?_iff, Reached, ← hws, ← hsockjs]
  unfold security
  dsimp only
  rw [hpatterns]
  simp

/-! ## The rules for URLs -/

/-- The expression of the rules for endpoints. -/
def signedIn : ParsedExpression := ⟨"isAuthenticated()", .call "isAuthenticated" []⟩

theorem evaluate_signedIn (t : RequestTarget) (user : Option User) :
    signedIn.expression.evaluate Root.builtin (t.context user) = .ok user.isSome := rfl

theorem applies_ant_iff {source : String} {t : RequestTarget} :
    (RequestKey.ant source none).applies t = true ↔ (Ant.ofSource source).accepts t.path = true := by
  unfold RequestKey.applies RequestKey.ant
  rw [Bool.true_and]

/-- **On the path of an endpoint the first rule that applies asks for a user.** -/
theorem governs_of_reached {t : RequestTarget} (h : Reached t.path) : urlRules.Governs t signedIn := by
  have hcarries : RuleMap.Carries .standard [.raw "isAuthenticated()"] signedIn := .inr ⟨_, rfl, rfl⟩
  have hadmin : ¬ (RequestKey.ant "/admin/**" none).applies t = true := by
    intro happlies
    have hadmin : Beneath ["admin"] t.path := (accepts_iff_beneath rfl).1 (applies_ant_iff.1 happlies)
    rcases h with hws | hsockjs
    · exact absurd (hadmin.head_eq hws.beneath) (by decide)
    · exact absurd (hadmin.head_eq hsockjs) (by decide)
  have hentries : urlRules.entries =
      [(.ant "/admin/**" none, [.raw "hasRole('ADMIN')"]), (.ant "/ws" none, [.raw "isAuthenticated()"]),
        (.ant "/sockjs/**" none, [.raw "isAuthenticated()"]), (.ant "/**" none, [.raw "permitAll()"])] := rfl
  have hfirst : ∃ entry, (urlRules.entries.find? fun e => e.1.applies t) = some entry ∧
      entry.2 = [.raw "isAuthenticated()"] := by
    rw [hentries]
    refine exists_find?_cons (fun hadmin' => absurd hadmin' hadmin) fun _ => ?_
    refine exists_find?_cons (fun _ => rfl) fun hnoWs => ?_
    refine exists_find?_cons (fun _ => rfl) fun hnoSockjs => ?_
    rcases h with hws | hsockjs
    · exact absurd (applies_ant_iff.2 ((accepts_iff_names rfl).2 hws)) hnoWs
    · exact absurd (applies_ant_iff.2 ((accepts_iff_beneath rfl).2 hsockjs)) hnoSockjs
  obtain ⟨⟨key, attributes⟩, hfind, rfl⟩ := hfirst
  exact ⟨key, _, hfind, hcarries⟩

theorem permits_iff_of_reached {t : RequestTarget} (h : Reached t.path) (user : Option User) :
    urlRules.Permits user t ↔ user.isSome = true := by
  have hgoverns := governs_of_reached h
  constructor
  · rintro (hnone | ⟨p, hp, htrue⟩)
    · obtain ⟨key, attributes, hfind, -⟩ := hgoverns
      have hmem : key ∈ urlRules.keys := List.mem_map.2 ⟨_, List.mem_of_find?_eq_some hfind, rfl⟩
      have happlies : key.applies t = true := List.find?_some (p := fun e : RequestKey × List Attribute => e.1.applies t) hfind
      rw [hnone key hmem] at happlies
      cases happlies
    · rw [hp.unique hgoverns, evaluate_signedIn] at htrue
      exact Except.ok.inj htrue
  · intro huser
    exact .inr ⟨signedIn, hgoverns, by rw [evaluate_signedIn, huser]⟩

/-! ## Endpoints behind the rules -/

/-- The endpoints behind the rules for URLs: which paths have a handler, what is decided on these paths, and what becomes of
an anonymous request to one of them, whatever service is behind the rules. -/
structure DemandUser (endpoints : HandlerMapping ω) (authorizer : UrlAuthorizer) : Prop where
  reached : ∀ path, (endpoints.handler? path).isSome = true ↔ Reached path
  decided : ∀ method path user, (endpoints.handler? path).isSome = true →
    (authorizer.decide user ⟨method, path⟩ = .ok () ↔ user.isSome = true)
  refused : ∀ (authenticator : Authenticator) (inner : Service ω) (r : HttpRequest) (s : Exchange ω),
    (endpoints.handler? r.path).isSome = true → authenticator r = none →
      UrlSecurity.guard (some authenticator) (some authorizer) inner r s = ({ status := 401 }, s)

/-- **The rules for URLs cover the endpoints of the chat**, whether or not the same origin is enforced. -/
theorem endpoints_demand_user (ω : Type) (sameOriginDisabled : Bool) :
    ∃ state authorizer, State.start (security ω sameOriginDisabled) = .ok state ∧
      UrlAuthorizer.ofMap urlRules = .ok authorizer ∧ DemandUser state.endpoints authorizer := by
  obtain ⟨channel, hchannel, -⟩ := exists_mediated ω sameOriginDisabled
  obtain ⟨authorizer, hauthorizer⟩ : ∃ authorizer, UrlAuthorizer.ofMap urlRules = .ok authorizer := ⟨_, rfl⟩
  have hnodup : urlRules.keys.Nodup := (RuleMap.follows_ofList _ RequestKey.applies).distinct
  have hdecided : ∀ method path user, Reached path →
      (authorizer.decide user ⟨method, path⟩ = .ok () ↔ user.isSome = true) := by
    intro method path user hreached
    rw [UrlAuthorizer.decide_eq_ok_iff hnodup hauthorizer]
    exact permits_iff_of_reached hreached user
  refine ⟨⟨channel, _⟩, authorizer, start_eq_of_channel hchannel, hauthorizer, reached_iff ω sameOriginDisabled, ?_, ?_⟩
  · intro method path user hhandler
    exact hdecided method path user ((reached_iff ω sameOriginDisabled path).1 hhandler)
  · intro authenticator inner r s hhandler hanonymous
    have hrefused : ¬ UrlSecurity.admits (some authorizer) none (UrlSecurity.attachUser r none) = true := by
      rw [UrlSecurity.admits_iff, UrlSecurity.target_attachUser]
      intro hok
      have huser := (hdecided r.method r.path none ((reached_iff ω sameOriginDisabled r.path).1 hhandler)).1 hok
      cases huser
    have huser : ((some authenticator).bind fun find => find r) = none := hanonymous
    exact UrlSecurity.guard_of_not_admits huser hrefused inner s

/-- A tail and superfluous slashes get an anonymous request past neither list, and the user past both. -/
theorem endpoints_demand_user_sockjs : ∃ state authorizer, State.start (security Unit false) = .ok state ∧
    UrlAuthorizer.ofMap urlRules = .ok authorizer ∧
    (state.endpoints.handler? "//sockjs///17/x/websocket/").isSome = true ∧
    authorizer.decide none ⟨"GET", "//sockjs///17/x/websocket/"⟩ ≠ .ok () ∧
    authorizer.decide (some ⟨"alice", [], []⟩) ⟨"GET", "//sockjs///17/x/websocket/"⟩ = .ok () := by
  obtain ⟨state, authorizer, hstart, hauthorizer, hdemand⟩ := endpoints_demand_user Unit false
  have hreached : Reached "//sockjs///17/x/websocket/" := .inr (beneath_iff.2 (by decide))
  have hhandler := (hdemand.reached _).2 hreached
  refine ⟨state, authorizer, hstart, hauthorizer, hhandler, fun hok => ?_, (hdemand.decided _ _ _ hhandler).2 rfl⟩
  exact absurd ((hdemand.decided _ _ _ hhandler).1 hok) (by decide)

end Chat
end BrokerGuard
