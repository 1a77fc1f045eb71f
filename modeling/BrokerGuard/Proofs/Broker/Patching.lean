import BrokerGuard.Proofs.Broker.InPlace
import BrokerGuard.Proofs.Broker.Startup
import Mathlib.Data.List.Forall2
/-!
# Patching — startup changes every chain or nothing

`BrokerSecurity.afterStartup` answers a new context.  Seen as a process that works on the context in place, startup examines
the handlers one by one and then changes them one by one in the mapping that the context holds (`startupInPlace`); a process
of this kind could stop half-way and leave some chains changed.  `startsUp_in_place` says that it does not: the two agree,
an error leaves the context as it was, and where there is none, every handler of the mapping has the interceptor for the
token in front of its chain.

Two things carry this.  A handler that is not objected to is one that is changed (`examine_cases`), so the second pass skips
nothing; and once examined, the handlers are changed without a test that could fail, each place once (`foldl_patchPlace`).
-/
namespace BrokerGuard

/-! ## Contexts -/

namespace TypedContext

variable {κ : Type} {Carrier : κ → Type}

/-- The two contexts differ in one component: the one that is found under the name. -/
def Replaces (c : TypedContext κ Carrier) (name : String) (old new : Sigma Carrier) (c' : TypedContext κ Carrier) : Prop :=
  ∃ before after, (∀ entry ∈ before, entry.1 ≠ name) ∧ c.entries = before ++ (name, old) :: after ∧
    c'.entries = before ++ (name, new) :: after

theorem replaces_register {c : TypedContext κ Carrier} {name : String} {old : Sigma Carrier} (h : c.find? name = some old)
    (kind : κ) (component : Carrier kind) : c.Replaces name old ⟨kind, component⟩ (c.register name kind component) := by
  obtain ⟨before, after, hentries, hne⟩ := exists_split_of_find? h
  refine ⟨before, after, hne, hentries, ?_⟩
  rw [register, hentries, registerIn_append _ hne]

theorem register_of_find? {c : TypedContext κ Carrier} {name : String} {kind : κ} {component : Carrier kind}
    (h : c.find? name = some ⟨kind, component⟩) : c.register name kind component = c := by
  obtain ⟨before, after, hne, hentries, hentries'⟩ := replaces_register h kind component
  exact congrArg TypedContext.mk (hentries'.trans hentries.symm)

theorem registerIn_registerIn (name : String) (first second : Sigma Carrier) :
    ∀ entries : List (String × Sigma Carrier),
      registerIn name second (registerIn name first entries) = registerIn name second entries
  | [] => if_pos rfl
  | (n, old) :: rest => by
    by_cases hn : n = name
    · rw [registerIn, if_pos hn, registerIn, if_pos hn, registerIn, if_pos hn]
    · rw [registerIn, if_neg hn, registerIn, if_neg hn, registerIn, if_neg hn, registerIn_registerIn name first second rest]

theorem register_register (c : TypedContext κ Carrier) (name : String) (kind : κ) (first second : Carrier kind) :
    (c.register name kind first).register name kind second = c.register name kind second :=
  congrArg TypedContext.mk (registerIn_registerIn name _ _ c.entries)

end TypedContext

namespace BrokerSecurity

variable {ω : Type}

/-! ## Startup in place -/

/-- The context with the mapping under the name. -/
def hold (name : String) (context : ComponentContext ω) (mapping : HandlerMapping ω) : ComponentContext ω :=
  context.register name .handlerMapping mapping

/-- The mapping that the context holds under the name. -/
def held (name : String) (context : ComponentContext ω) : Except (LookupError ComponentKind) (HandlerMapping ω) :=
  context.get name .handlerMapping

/-- The mapping with the handler at one place changed. -/
def patchAt (place : Nat) (mapping : HandlerMapping ω) : HandlerMapping ω :=
  ⟨mapping.entries.modify place fun e => (e.1, withTokenInterceptor e.2)⟩

/-- Changes the handler at one place of the mapping that the context holds. -/
def patchPlace (name : String) (place : Nat) (context : ComponentContext ω) : ComponentContext ω :=
  match held name context with
  | .ok mapping => hold name context (patchAt place mapping)
  | .error _ => context

/-- Examines every handler of the mapping, and then changes one after the other. -/
def patchInPlace (name : String) (mapping : HandlerMapping ω) : InPlace (ComponentContext ω) Unit := do
  mapping.entries.forM fun e => liftExcept (examine name e.2)
  (List.range mapping.entries.length).forM fun place => modify (patchPlace name place)

/-- Startup as a process: it looks the mapping up and patches it where it is. -/
def startupInPlace (b : BrokerSecurity ω) : InPlace (ComponentContext ω) Unit := do
  if b.configurer.sameOriginEnforced then
    let context ← get
    match held b.settings.mappingName context with
    | .error e => throw (.ofLookup e)
    | .ok mapping => patchInPlace b.settings.mappingName mapping

/-! ## What startup comes to -/

/-- A handler with a chain, before and after it is given the interceptor for the token; its kind stays. -/
inductive Patched : EndpointHandler ω → EndpointHandler ω → Prop
  | webSocket (chain : List (HandshakeInterceptor ω)) :
    Patched (.webSocket chain) (.webSocket (.csrfToken (.inSession {}) :: chain))
  | transports (chain : List (HandshakeInterceptor ω)) :
    Patched (.sockJs (.transports chain)) (.sockJs (.transports (.csrfToken (.inSession {}) :: chain)))

/-- A handler without a chain that is known, and the error for it. -/
inductive Objects (mappingName : String) : EndpointHandler ω → ConfigurationError → Prop
  | handler (name : String) (action : HandshakeAction ω) :
    Objects mappingName (.custom name action) (.unexpectedHandler mappingName name)
  | service (name : String) (action : HandshakeAction ω) :
    Objects mappingName (.sockJs (.custom name action)) (.unexpectedFallbackService name)

/-- What startup makes of a context, case by case: the outcome and the context afterwards. -/
inductive StartsUp (b : BrokerSecurity ω) (c : ComponentContext ω) :
    Except ConfigurationError Unit → ComponentContext ω → Prop
  | off (hoff : b.configurer.sameOriginEnforced = false) : StartsUp b c (.ok ()) c
  | unregistered (hon : b.configurer.sameOriginEnforced = true) (hfind : c.find? b.settings.mappingName = none) :
    StartsUp b c (.error (.noSuchComponent b.settings.mappingName)) c
  | otherKind {component} (hon : b.configurer.sameOriginEnforced = true)
    (hfind : c.find? b.settings.mappingName = some component) (hkind : component.1 ≠ .handlerMapping) :
    StartsUp b c (.error (.componentOfOtherKind b.settings.mappingName .handlerMapping)) c
  | offended {mapping before entry after e} (hon : b.configurer.sameOriginEnforced = true)
    (hfind : c.find? b.settings.mappingName = some ⟨.handlerMapping, mapping⟩)
    (hentries : HandlerMapping.entries mapping = before ++ entry :: after)
    (hbefore : ∀ other ∈ before, ∃ handler, Patched other.2 handler)
    (hobjects : Objects b.settings.mappingName entry.2 e) : StartsUp b c (.error e) c
  | patched {mapping mapping' c'} (hon : b.configurer.sameOriginEnforced = true)
    (hreplaces : c.Replaces b.settings.mappingName ⟨.handlerMapping, mapping⟩ ⟨.handlerMapping, mapping'⟩ c')
    (hentries : List.Forall₂ (fun entry entry' => entry'.1 = entry.1 ∧ Patched entry.2 entry'.2)
      (HandlerMapping.entries mapping) (HandlerMapping.entries mapping')) : StartsUp b c (.ok ()) c'

/-! ## The two passes -/

/-- **Examining and changing agree on every handler.** -/
theorem examine_cases (mappingName : String) : ∀ handler : EndpointHandler ω,
    (examine mappingName handler = .ok () ∧ Patched handler (withTokenInterceptor handler)) ∨
      ∃ e, examine mappingName handler = .error e ∧ Objects mappingName handler e
  | .webSocket chain => .inl ⟨rfl, .webSocket chain⟩
  | .sockJs (.transports chain) => .inl ⟨rfl, .transports chain⟩
  | .sockJs (.custom name action) => .inr ⟨_, rfl, .service name action⟩
  | .custom name action => .inr ⟨_, rfl, .handler name action⟩

theorem examineAll_cases (mappingName : String) : ∀ entries : List (Pattern.Ant × EndpointHandler ω),
    (examineAll mappingName entries = .ok () ∧ ∀ entry ∈ entries, Patched entry.2 (withTokenInterceptor entry.2)) ∨
      ∃ before entry after e, entries = before ++ entry :: after ∧
        (∀ other ∈ before, Patched other.2 (withTokenInterceptor other.2)) ∧ Objects mappingName entry.2 e ∧
        examineAll mappingName entries = .error e
  | [] => .inl ⟨rfl, fun _ h => absurd h List.not_mem_nil⟩
  | entry :: rest => by
    unfold examineAll
    rcases examine_cases mappingName entry.2 with ⟨hok, hpatched⟩ | ⟨e, herror, hobjects⟩
    · rw [hok]
      rcases examineAll_cases mappingName rest with ⟨hrest, hall⟩ | ⟨before, other, after, e, rfl, hbefore, hobjects, hrest⟩
      · exact .inl ⟨hrest, List.forall_mem_cons.2 ⟨hpatched, hall⟩⟩
      · exact .inr ⟨entry :: before, other, after, e, rfl, List.forall_mem_cons.2 ⟨hpatched, hbefore⟩, hobjects, hrest⟩
    · rw [herror]
      exact .inr ⟨[], entry, rest, e, rfl, fun _ h => absurd h List.not_mem_nil, hobjects, rfl⟩

theorem run_forM_examine (mappingName : String) (c : ComponentContext ω) :
    ∀ entries : List (Pattern.Ant × EndpointHandler ω),
      (entries.forM fun e => (liftExcept (examine mappingName e.2) : InPlace (ComponentContext ω) Unit)).run c =
        (examineAll mappingName entries, c)
  | [] => rfl
  | entry :: rest => by
    have hrest := run_forM_examine mappingName c rest
    have hcons : ((entry :: rest).forM fun e => (liftExcept (examine mappingName e.2) : InPlace (ComponentContext ω) Unit)) =
        liftExcept (examine mappingName entry.2) >>= fun _ =>
          rest.forM fun e => liftExcept (examine mappingName e.2) := rfl
    rw [hcons, InPlace.run_bind]
    unfold examineAll
    cases examine mappingName entry.2 with
    | error e => rfl
    | ok _ => exact hrest

/-! ## The second pass -/

theorem held_hold (name : String) (c : ComponentContext ω) (mapping : HandlerMapping ω) :
    held name (hold name c mapping) = .ok mapping :=
  TypedContext.get_register_self c name .handlerMapping mapping

theorem hold_hold (name : String) (c : ComponentContext ω) (first second : HandlerMapping ω) :
    hold name (hold name c first) second = hold name c second :=
  TypedContext.register_register c name .handlerMapping first second

theorem patchPlace_hold (name : String) (c : ComponentContext ω) (place : Nat) (mapping : HandlerMapping ω) :
    patchPlace name place (hold name c mapping) = hold name c (patchAt place mapping) := by
  unfold patchPlace
  rw [held_hold]
  exact hold_hold name c mapping (patchAt place mapping)

theorem foldl_patchPlace_hold (name : String) (c : ComponentContext ω) :
    ∀ (places : List Nat) (mapping : HandlerMapping ω),
      places.foldl (fun c place => patchPlace name place c) (hold name c mapping) =
        hold name c (places.foldl (fun mapping place => patchAt place mapping) mapping)
  | [], _ => rfl
  | place :: places, mapping => by
    rw [List.foldl_cons, patchPlace_hold, foldl_patchPlace_hold name c places, List.foldl_cons]

/-- Each place once, in order: what is behind the handlers changed so far is as it was. -/
theorem foldl_patchAt : ∀ rest done : List (Pattern.Ant × EndpointHandler ω),
    (List.range' done.length rest.length).foldl (fun mapping place => patchAt place mapping)
        (⟨done ++ rest⟩ : HandlerMapping ω) =
      ⟨done ++ rest.map fun e => (e.1, withTokenInterceptor e.2)⟩
  | [], _ => rfl
  | entry :: rest, done => by
    have hentry : patchAt done.length (⟨done ++ entry :: rest⟩ : HandlerMapping ω) =
        ⟨done ++ (entry.1, withTokenInterceptor entry.2) :: rest⟩ := by
      unfold patchAt
      rw [Bindings.modify_append]
    have hrest := foldl_patchAt rest (done ++ [(entry.1, withTokenInterceptor entry.2)])
    rw [List.length_append, List.length_singleton, List.append_assoc, List.append_assoc, List.singleton_append,
      List.singleton_append] at hrest
    rw [List.length_cons, List.range'_succ, List.foldl_cons, hentry, hrest, List.map_cons]

/-- **The second pass changes every handler of the mapping.** -/
theorem foldl_patchPlace {name : String} {c : ComponentContext ω} {mapping : HandlerMapping ω}
    (h : c.find? name = some ⟨.handlerMapping, mapping⟩) :
    (List.range mapping.entries.length).foldl (fun c place => patchPlace name place c) c = hold name c (patch mapping) := by
  have hsame : hold name c mapping = c := TypedContext.register_of_find? h
  have hall := foldl_patchAt mapping.entries []
  rw [List.length_nil, List.nil_append, ← List.range_eq_range'] at hall
  conv => lhs; rw [← hsame]
  rw [foldl_patchPlace_hold]
  exact congrArg (hold name c) hall

theorem run_patchInPlace {name : String} {c : ComponentContext ω} {mapping : HandlerMapping ω}
    (h : c.find? name = some ⟨.handlerMapping, mapping⟩) :
    (patchInPlace name mapping).run c =
      match examineAll name mapping.entries with
      | .error e => (.error e, c)
      | .ok () => (.ok (), hold name c (patch mapping)) := by
  unfold patchInPlace
  rw [InPlace.run_bind, run_forM_examine]
  cases examineAll name mapping.entries with
  | error e => rfl
  | ok _ =>
    have hmodify := InPlace.run_forM_modify (patchPlace name) (List.range mapping.entries.length) c
    rw [foldl_patchPlace h] at hmodify
    exact hmodify

theorem held_cases (name : String) (c : ComponentContext ω) :
    (∃ e, held name c = .error e) ∨
      ∃ mapping : HandlerMapping ω, c.find? name = some ⟨.handlerMapping, mapping⟩ ∧ held name c = .ok mapping := by
  rcases c.get_cases name .handlerMapping with ⟨-, h⟩ | ⟨_, -, -, h⟩ | h
  · exact .inl ⟨_, h⟩
  · exact .inl ⟨_, h⟩
  · exact .inr h

/-- Startup, in terms of the mapping that the context holds. -/
theorem afterStartup_of_enforced {b : BrokerSecurity ω} (hon : b.configurer.sameOriginEnforced = true)
    (c : ComponentContext ω) :
    b.afterStartup c =
      match held b.settings.mappingName c with
      | .error e => .error (.ofLookup e)
      | .ok mapping =>
        match examineAll b.settings.mappingName mapping.entries with
        | .error e => .error e
        | .ok () => .ok (hold b.settings.mappingName c (patch mapping)) := by
  unfold afterStartup
  exact if_pos hon

theorem run_startupInPlace_of_enforced {b : BrokerSecurity ω} (hon : b.configurer.sameOriginEnforced = true)
    (c : ComponentContext ω) :
    b.startupInPlace.run c =
      match held b.settings.mappingName c with
      | .error e => (.error (.ofLookup e), c)
      | .ok mapping => (patchInPlace b.settings.mappingName mapping).run c := by
  have hget : (get : InPlace (ComponentContext ω) (ComponentContext ω)).run c = (.ok c, c) := rfl
  unfold startupInPlace
  rw [if_pos hon, InPlace.run_bind, hget]
  dsimp only
  cases held b.settings.mappingName c with
  | error e => rfl
  | ok mapping => rfl

/-- **Startup in place does what startup answers**, and leaves the context as it was when startup fails. -/
theorem run_startupInPlace (b : BrokerSecurity ω) (c : ComponentContext ω) :
    b.startupInPlace.run c =
      match b.afterStartup c with
      | .ok c' => (.ok (), c')
      | .error e => (.error e, c) := by
  by_cases hon : b.configurer.sameOriginEnforced = true
  · rw [run_startupInPlace_of_enforced hon, afterStartup_of_enforced hon]
    rcases held_cases b.settings.mappingName c with ⟨e, hheld⟩ | ⟨mapping, hfind, hheld⟩
    · rw [hheld]
    · rw [hheld]
      dsimp only
      rw [run_patchInPlace hfind]
      cases examineAll b.settings.mappingName mapping.entries with
      | error e => rfl
      | ok _ => rfl
  · unfold startupInPlace afterStartup
    rw [if_neg hon, if_neg hon]
    rfl

/-! ## What startup comes to, decided -/

theorem forall₂_patch {entries : List (Pattern.Ant × EndpointHandler ω)}
    (h : ∀ entry ∈ entries, Patched entry.2 (withTokenInterceptor entry.2)) :
    List.Forall₂ (fun entry entry' => entry'.1 = entry.1 ∧ Patched entry.2 entry'.2) entries
      (entries.map fun e => (e.1, withTokenInterceptor e.2)) :=
  List.forall₂_map_right_iff.2 (List.forall₂_same.2 fun entry hentry => ⟨rfl, h entry hentry⟩)

theorem startsUp_afterStartup (b : BrokerSecurity ω) (c : ComponentContext ω) :
    (∃ c', b.afterStartup c = .ok c' ∧ StartsUp b c (.ok ()) c') ∨
      ∃ e, b.afterStartup c = .error e ∧ StartsUp b c (.error e) c := by
  by_cases hon : b.configurer.sameOriginEnforced = true
  · rw [afterStartup_of_enforced hon]
    rcases c.get_cases b.settings.mappingName .handlerMapping with
      ⟨hfind, hheld⟩ | ⟨component, hfind, hkind, hheld⟩ | ⟨mapping, hfind, hheld⟩
    · refine .inr ⟨_, ?_, .unregistered hon hfind⟩
      rw [held, hheld]
      rfl
    · refine .inr ⟨_, ?_, .otherKind hon hfind hkind⟩
      rw [held, hheld]
      rfl
    · rcases examineAll_cases b.settings.mappingName (HandlerMapping.entries mapping) with
        ⟨hexamine, hpatched⟩ | ⟨before, entry, after, e, hentries, hbefore, hobjects, hexamine⟩
      · refine .inl ⟨hold b.settings.mappingName c (patch mapping), ?_,
          .patched hon (TypedContext.replaces_register hfind _ _) (forall₂_patch hpatched)⟩
        rw [held, hheld]
        dsimp only
        rw [hexamine]
      · refine .inr ⟨e, ?_, .offended hon hfind hentries (fun other hother => ⟨_, hbefore other hother⟩) hobjects⟩
        rw [held, hheld]
        dsimp only
        rw [hexamine]
  · refine .inl ⟨c, ?_, .off (Bool.not_eq_true _ ▸ hon)⟩
    unfold afterStartup
    exact if_neg hon

/-- **Startup changes every chain or nothing.**  The process that works in place ends as `StartsUp` says: with the
interceptor for the token in front of every chain of the mapping and everything else as it was, or with an error and the
context as it was. -/
theorem startsUp_in_place (b : BrokerSecurity ω) (c : ComponentContext ω) :
    ∃ outcome c', b.startupInPlace.run c = (outcome, c') ∧ StartsUp b c outcome c' ∧
      b.afterStartup c = outcome.map fun _ => c' := by
  have hrun := run_startupInPlace b c
  rcases startsUp_afterStartup b c with ⟨c', hafter, hstarts⟩ | ⟨e, hafter, hstarts⟩
  · rw [hafter] at hrun
    exact ⟨.ok (), c', hrun, hstarts, hafter⟩
  · rw [hafter] at hrun
    exact ⟨.error e, c, hrun, hstarts, hafter⟩

end BrokerSecurity
end BrokerGuard
