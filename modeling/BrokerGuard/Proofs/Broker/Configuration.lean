import BrokerGuard.Broker
import BrokerGuard.Proofs.Broker.InPlace
import BrokerGuard.Proofs.Message.Registrations
/-!
# Configuration — the rules are read before the channel is touched

`BrokerSecurity.configure` answers a new registration.  Seen as a process that works on a registration in place, it reads
the rules, adds one interceptor after the other and hands the registration to the application (`configureInPlace`); if it
stopped in between, a channel with some of its guards would be left behind.  `configures_in_place` says that it does not:
it fails exactly when a text that counts is not read, names the first such matcher, and has then done nothing.
-/
namespace BrokerGuard

open Bindings (Latest bindAll)

/-! ## The first rule that is not read -/

namespace RuleRegistry

/-- The parser reads the text that was registered last for the matcher. -/
def Reads (history : List (MessageMatcher × String)) (parser : ExpressionParser) (matcher : MessageMatcher) : Prop :=
  ∃ text p, Latest history matcher text ∧ parser text = .ok p

/-- In the order of first registration, this is the first matcher whose text the parser rejects. -/
def FirstRejected (history : List (MessageMatcher × String)) (parser : ExpressionParser) (matcher : MessageMatcher)
    (text : String) (cause : ParseError) : Prop :=
  (∃ before after, (history.map Prod.fst).eraseDups = before ++ matcher :: after ∧
    ∀ other ∈ before, Reads history parser other) ∧
  Latest history matcher text ∧ parser text = .error cause

theorem convert_text_error {parser : ExpressionParser} {matcher : MessageMatcher} {text : String} {e : ConfigurationError}
    (h : RuleMap.convert MessageMatcher.display parser (matcher, [.raw text]) = .error e) :
    ∃ cause, parser text = .error cause ∧ e = .expressionParse matcher.display text cause := by
  cases hp : parser text with
  | ok p => rw [RuleMap.convert_raw_of_ok hp] at h; cases h
  | error cause => rw [RuleMap.convert_raw_of_error hp] at h; cases h; exact ⟨cause, rfl, rfl⟩

variable {steps : List RuleStep}

theorem build_eq_mapM {r : RuleRegistry} (h : r.mappings.keys.Nodup) :
    r.build = (r.mappings.entries.mapM (RuleMap.convert MessageMatcher.display r.parser)).map RuleMap.mk :=
  RuleMap.parse_eq_mapM h _ _

/-- **Rules that cannot be built name the first matcher whose text is rejected.** -/
theorem firstRejected_of_build_error {e : ConfigurationError}
    (h : (({} : RuleRegistry).declareAll steps).build = .error e) :
    ∃ matcher text cause,
      FirstRejected (registrations '/' steps) (parserOf steps) matcher text cause ∧
      e = .expressionParse matcher.display text cause := by
  have hdeclared := Declared.empty.declareAll steps
  rw [build_eq_mapM hdeclared.nodup, parser_declareAll] at h
  cases hconverted : (({} : RuleRegistry).declareAll steps).mappings.entries.mapM
      (RuleMap.convert MessageMatcher.display (parserOf steps)) with
  | ok converted => rw [hconverted] at h; cases h
  | error e' =>
    rw [hconverted] at h
    cases h
    obtain ⟨before, ⟨matcher, attributes⟩, after, hentries, herror, hbefore⟩ :=
      RuleMap.split_of_mapM_convert_error hconverted
    have hmem : ∀ entry ∈ before ++ (matcher, attributes) :: after,
        entry ∈ (({} : RuleRegistry).declareAll steps).mappings.entries := by
      rw [hentries]
      exact fun _ hentry => hentry
    obtain ⟨text, rfl, hlatest⟩ := latest_of_mem_entries (hmem (matcher, attributes) (by simp))
    obtain ⟨cause, hcause, rfl⟩ := convert_text_error herror
    refine ⟨matcher, text, cause, ⟨⟨before.map Prod.fst, after.map Prod.fst, ?_, ?_⟩, hlatest, hcause⟩, rfl⟩
    · rw [← keys_declareAll, RuleMap.keys, hentries, List.map_append]
      rfl
    · intro other hother
      obtain ⟨⟨other, attributes⟩, hentry, rfl⟩ := List.mem_map.1 hother
      obtain ⟨text', rfl, hlatest'⟩ := latest_of_mem_entries (hmem _ (List.mem_append_left _ hentry))
      obtain ⟨converted, hconvert⟩ := hbefore _ hentry
      obtain ⟨p, hp⟩ := convert_text_ok hconvert
      exact ⟨text', p, hlatest', hp⟩

theorem containsMapping_declareAll (steps : List RuleStep) :
    (({} : RuleRegistry).declareAll steps).containsMapping = !(registrations '/' steps).isEmpty := by
  have hempty : bindAll (registrations '/' steps) = [] ↔ registrations '/' steps = [] := by
    rw [← List.map_eq_nil_iff (f := Prod.fst), Bindings.keys_bindAll]
    cases registrations '/' steps with
    | nil => simp
    | cons b history => simp [List.eraseDups_cons]
  unfold containsMapping RuleMap.isEmpty
  rw [entries_declareAll, Bool.eq_iff_iff]
  simp [hempty]

end RuleRegistry

namespace BrokerSecurity

variable {ω : Type}

/-! ## Configuration in place -/

/-- A registration while it is configured, and what the application's hook was given, call by call. -/
structure Wiring (ω : Type) where
  registration : ChannelRegistration ω
  handed : List (ChannelRegistration ω) := []

/-- Adds one interceptor to the registration. -/
def attach (i : ChannelInterceptor ω) : InPlace (Wiring ω) Unit :=
  modify fun w => { w with registration := w.registration.add [i] }

/-- Adds one interceptor, if it is wanted. -/
def attachIf (wanted : Bool) (i : ChannelInterceptor ω) : InPlace (Wiring ω) Unit := if wanted then attach i else pure ()

/-- Hands the registration to the application's hook, which may change it. -/
def handOver (b : BrokerSecurity ω) : InPlace (Wiring ω) Unit :=
  modify fun w => ⟨b.configurer.customize w.registration, w.handed ++ [w.registration]⟩

/-- Configuration as a process: it reads the rules, adds the interceptors one by one and calls the application's hook. -/
def configureInPlace (b : BrokerSecurity ω) : InPlace (Wiring ω) Unit := do
  let security ← liftExcept b.channelSecurity
  attach .identity
  attachIf b.configurer.sameOriginEnforced .csrf
  attachIf b.registry.containsMapping security.interceptor
  b.handOver

theorem run_attachIf (wanted : Bool) (i : ChannelInterceptor ω) (w : Wiring ω) :
    (attachIf wanted i).run w = (.ok (), { w with registration := w.registration.add (if wanted then [i] else []) }) := by
  cases wanted with
  | true => rfl
  | false =>
    have hsame : w.registration.add [] = w.registration := congrArg ChannelRegistration.mk (List.append_nil _)
    simp only [attachIf, Bool.false_eq_true, if_false, hsame]
    rfl

theorem add_add (registration : ChannelRegistration ω) (first second : List (ChannelInterceptor ω)) :
    (registration.add first).add second = registration.add (first ++ second) :=
  congrArg ChannelRegistration.mk (List.append_assoc _ _ _)

theorem run_configureInPlace_of_ok {b : BrokerSecurity ω} {security : ChannelSecurity}
    (h : b.channelSecurity = .ok security) (w : Wiring ω) :
    b.configureInPlace.run w =
      (.ok (), ⟨b.configurer.customize (w.registration.add (b.ownInterceptors security)),
        w.handed ++ [w.registration.add (b.ownInterceptors security)]⟩) := by
  have hattach : (attach .identity).run w = (.ok (), { w with registration := w.registration.add [.identity] }) := rfl
  unfold configureInPlace ownInterceptors
  rw [h, InPlace.run_bind_of_ok (InPlace.run_liftExcept _ w), InPlace.run_bind_of_ok hattach,
    InPlace.run_bind_of_ok (run_attachIf _ _ _), InPlace.run_bind_of_ok (run_attachIf _ _ _), add_add, add_add]
  rfl

theorem run_configureInPlace_of_error {b : BrokerSecurity ω} {e : ConfigurationError} (h : b.channelSecurity = .error e)
    (w : Wiring ω) : b.configureInPlace.run w = (.error e, w) := by
  unfold configureInPlace
  rw [h]
  exact InPlace.run_bind_of_error (InPlace.run_liftExcept _ w) _

/-! ## What configuration comes to -/

/-- The registration as the application's hook is given it: what was there, and then the broker security's own
interceptors. -/
def wired (b : BrokerSecurity ω) (history : List (MessageMatcher × String)) (rules : MessageRules)
    (registration : ChannelRegistration ω) : ChannelRegistration ω :=
  ⟨registration.interceptors ++ .identity ::
    ((if b.configurer.sameOriginEnforced then [.csrf] else []) ++
      (if history.isEmpty then [] else [(ChannelSecurity.mk rules b.manager).interceptor]))⟩

/-- What configuration makes of a registration, given the history of the registered rules and the parser for their texts:
the outcome and the wiring afterwards. -/
structure Configures (b : BrokerSecurity ω) (history : List (MessageMatcher × String)) (parser : ExpressionParser)
    (w : Wiring ω) (outcome : Except ConfigurationError Unit) (w' : Wiring ω) : Prop where
  fails_iff : (∃ e, outcome = .error e) ↔
    ∃ matcher text cause, Latest history matcher text ∧ parser text = .error cause
  refused : ∀ e, outcome = .error e → w' = w ∧ ∃ matcher text cause,
    RuleRegistry.FirstRejected history parser matcher text cause ∧
    e = .expressionParse matcher.display text cause
  configured : outcome = .ok () → ∃ rules, b.registry.build = .ok rules ∧
    w' = ⟨b.configurer.customize (b.wired history rules w.registration), w.handed ++ [b.wired history rules w.registration]⟩

/-- **Configuration adds every guard or nothing.**  The process that works in place fails exactly when the parser rejects a
text that is registered for some matcher; it then names the first such matcher and has neither touched the registration
nor called the application's hook.  Otherwise the hook is called once, with the interceptors that were there and then the
broker security's own: for every sequence of declarations, with any parser. -/
theorem configures_in_place {b : BrokerSecurity ω} {steps : List RuleStep}
    (hinbound : b.registry = ({} : RuleRegistry).declareAll steps) (w : Wiring ω) :
    ∃ outcome w', b.configureInPlace.run w = (outcome, w') ∧
      Configures b (RuleRegistry.registrations '/' steps) (RuleRegistry.parserOf steps) w outcome w' ∧
      b.configure w.registration = outcome.map fun _ => w'.registration := by
  cases hbuild : b.registry.build with
  | error e =>
    have hsecurity : b.channelSecurity = .error e := by simp only [channelSecurity, hbuild]
    rw [hinbound] at hbuild
    obtain ⟨matcher, text, cause, hfirst, rfl⟩ := RuleRegistry.firstRejected_of_build_error hbuild
    refine ⟨_, w, run_configureInPlace_of_error hsecurity w, ⟨?_, ?_, ?_⟩, ?_⟩
    · exact ⟨fun _ => ⟨matcher, text, cause, hfirst.2⟩, fun _ => ⟨_, rfl⟩⟩
    · rintro e ⟨⟩
      exact ⟨rfl, matcher, text, cause, hfirst, rfl⟩
    · rintro ⟨⟩
    · simp only [configure, hsecurity]
      rfl
  | ok rules =>
    have hsecurity : b.channelSecurity = .ok ⟨rules, b.manager⟩ := by simp only [channelSecurity, hbuild]
    have hwired : w.registration.add (b.ownInterceptors ⟨rules, b.manager⟩) =
        b.wired (RuleRegistry.registrations '/' steps) rules w.registration := by
      have hmapping : b.registry.containsMapping = !(RuleRegistry.registrations '/' steps).isEmpty := by
        rw [hinbound, RuleRegistry.containsMapping_declareAll]
      unfold ownInterceptors wired
      rw [hmapping]
      cases (RuleRegistry.registrations '/' steps).isEmpty <;> rfl
    refine ⟨_, _, run_configureInPlace_of_ok hsecurity w, ⟨?_, ?_, ?_⟩, ?_⟩
    · constructor
      · rintro ⟨e, ⟨⟩⟩
      · rintro ⟨matcher, text, cause, hlatest, hcause⟩
        rw [hinbound] at hbuild
        obtain ⟨p, hp⟩ := RuleRegistry.build_declareAll_ok_iff.1 ⟨rules, hbuild⟩ matcher text hlatest
        rw [hcause] at hp
        cases hp
    · rintro e ⟨⟩
    · intro _
      rw [hwired]
      exact ⟨rules, hbuild, rfl⟩
    · simp only [configure, hsecurity]
      rfl

/-- A broker with a rule that is mended by a later one, and two that are not. -/
def misspelt : BrokerSecurity Unit where
  configurer := {
    inbound := fun r => r.declareAll
      [.rule (.types [.connect]) (.access "permitAll("), .rule (.destinations none ["/app/**", "/topic/*"]) (.hasRole "USER"),
        .rule (.matchers [.ofPattern "/app/**", .any]) (.access "hasRole('ADMIN'"), .rule (.types [.connect]) .permitAll]
    customize := fun registration => registration.add [.identity] }

theorem configures_in_place_misspelt :
    ∃ outcome w', misspelt.configureInPlace.run ⟨⟨[.csrf]⟩, []⟩ = (outcome, w') ∧
      Configures misspelt
        (RuleRegistry.registrations '/'
          [.rule (.types [.connect]) (.access "permitAll("),
            .rule (.destinations none ["/app/**", "/topic/*"]) (.hasRole "USER"),
            .rule (.matchers [.ofPattern "/app/**", .any]) (.access "hasRole('ADMIN'"),
            .rule (.types [.connect]) .permitAll])
        .standard ⟨⟨[.csrf]⟩, []⟩ outcome w' ∧
      misspelt.configure ⟨[.csrf]⟩ = outcome.map fun _ => w'.registration :=
  configures_in_place rfl _

/-- The first matcher in the order of registration whose text is rejected is the pattern, which was declared again. -/
example : misspelt.configure ⟨[.csrf]⟩ =
    .error (.expressionParse "SimpDestination [pattern='/app/**']" "hasRole('ADMIN'" .unexpectedEnd) := by rfl

end BrokerSecurity
end BrokerGuard
