import BrokerGuard.Broker
import BrokerGuard.Proofs.Channel.Dispatch
import BrokerGuard.Proofs.Channel.TokenCheck
import BrokerGuard.Proofs.Message.Registrations
/-!
# Mediation — the outcome of sending a message through a broker's channel

Every message meets the same tests in the same order: the token of a connecting client, the rule that governs the message,
the application's own interceptors.  `Mediated` says what comes of it in each case, in terms of the declared steps, and
`channel_mediates` that this is what the channel of every configuration does, whatever the rules, the functions that
expressions call, and the handler.
-/
namespace BrokerGuard

open Bindings (Latest)
open RuleRegistry (Governs governs_declareAll_iff registrations parserOf)

namespace BrokerSecurity

open InboundChannel

variable {ω α : Type}

/-- A client connects whose session has no readable token. -/
def TokenMissing (b : BrokerSecurity ω) (m : Message) : Prop :=
  b.configurer.sameOriginEnforced = true ∧ m.type = .connect ∧ ChannelInterceptor.sessionToken? m = none

/-- A client connects and does not repeat the token of its session. -/
def TokenDiffers (b : BrokerSecurity ω) (m : Message) (token : CsrfToken) : Prop :=
  b.configurer.sameOriginEnforced = true ∧ m.type = .connect ∧ ChannelInterceptor.sessionToken? m = some token ∧
    m.firstHeader? token.headerName ≠ some token.value

/-- Nothing is wrong with the token of the message. -/
def TokenPasses (b : BrokerSecurity ω) (m : Message) : Prop := ¬ b.TokenMissing m ∧ ∀ token, ¬ b.TokenDiffers m token

/-- A declared rule governs the message, and its expression is not true for the user of the message. -/
def RuleForbids (b : BrokerSecurity ω) (steps : List RuleStep) (m : Message) : Prop :=
  ∃ p, Governs steps m p ∧ p.expression.evaluate b.settings.root (m.context m.user) ≠ .ok true

/-- The application's interceptors and the handler run in a scope of the message's user. -/
def onBehalf (m : Message) (s : Surroundings ω) : Surroundings ω := { s with ambient := some ⟨m.user, [none]⟩ }

/-- What comes of sending a message under the declared rules, case by case.  Where a security test fails, nothing of the
application runs, and where one of its interceptors refuses the message, the handler does not. -/
structure Mediated (b : BrokerSecurity ω) (steps : List RuleStep) (appended : List (ChannelInterceptor ω))
    (handler : MessageHandler ω α) (m : Message) (s : Surroundings ω) (outcome : Except MessageError α × Surroundings ω) :
    Prop where
  tokenMissing : b.TokenMissing m → outcome = (.error .missingCsrfToken, s)
  tokenDiffers : ∀ token, b.TokenDiffers m token → outcome = (.error (.invalidCsrfToken token.headerName), s)
  forbidden : b.TokenPasses m → b.RuleForbids steps m →
    outcome = (.error (.accessDenied m.type.name (m.destination.getD "<none>")), s)
  refused : b.TokenPasses m → ¬ b.RuleForbids steps m → ∀ p t e, pass appended m (onBehalf m s) = (p, t) →
    p.refusal = some e → outcome = (.error e, { s with world := (release p.passed p.message false t).world })
  handled : b.TokenPasses m → ¬ b.RuleForbids steps m → ∀ p t, pass appended m (onBehalf m s) = (p, t) → p.refusal = none →
    t.ambient.user? = m.user ∧
    outcome = (.ok (handler p.message t).1,
      { s with world := (release p.passed p.message true (handler p.message t).2).world })

/-- The verdict on the token. -/
def tokenVerdict (b : BrokerSecurity ω) (m : Message) : Except MessageError Unit :=
  if b.configurer.sameOriginEnforced then ChannelInterceptor.checkToken m else .ok ()

theorem tokenVerdict_of_missing {b : BrokerSecurity ω} {m : Message} (h : b.TokenMissing m) :
    b.tokenVerdict m = .error .missingCsrfToken := by
  obtain ⟨hsame, htype, htoken⟩ := h
  rw [tokenVerdict, if_pos hsame, ChannelInterceptor.checkToken_of_missing htype htoken]

theorem tokenVerdict_of_differs {b : BrokerSecurity ω} {m : Message} {token : CsrfToken} (h : b.TokenDiffers m token) :
    b.tokenVerdict m = .error (.invalidCsrfToken token.headerName) := by
  obtain ⟨hsame, htype, htoken, hheader⟩ := h
  rw [tokenVerdict, if_pos hsame, ChannelInterceptor.checkToken_of_differs htype htoken hheader]

theorem tokenVerdict_of_passes {b : BrokerSecurity ω} {m : Message} (h : b.TokenPasses m) :
    b.tokenVerdict m = .ok () := by
  obtain ⟨hmissing, hdiffers⟩ := h
  unfold tokenVerdict
  by_cases hsame : b.configurer.sameOriginEnforced = true
  · rw [if_pos hsame]
    by_cases htype : m.type = .connect
    · cases htoken : ChannelInterceptor.sessionToken? m with
      | none => exact absurd ⟨hsame, htype, htoken⟩ hmissing
      | some token =>
        have hheader : m.firstHeader? token.headerName = some token.value :=
          Classical.byContradiction fun hne => hdiffers token ⟨hsame, htype, htoken, hne⟩
        exact ChannelInterceptor.checkToken_of_repeats htype htoken hheader
    · exact ChannelInterceptor.checkToken_of_type_ne htype
  · rw [if_neg hsame]

/-- The verdict of the rules: there is one only when a rule was declared. -/
def ruleVerdict (b : BrokerSecurity ω) (security : ChannelSecurity) (m : Message) : Except MessageError Unit :=
  if b.registry.containsMapping then security.check m.user m else .ok ()

section Rules

variable {b : BrokerSecurity ω} {steps : List RuleStep} {rules : MessageRules} {m : Message}

/-- Where no rule was declared, none answers. -/
theorem containsMapping_of_answers {p : ParsedExpression} (h : b.registry.Answers m p) :
    b.registry.containsMapping = true := by
  obtain ⟨matcher, text, hfind, -⟩ := h
  have hmem := List.mem_of_find?_eq_some hfind
  unfold RuleRegistry.containsMapping RuleMap.isEmpty
  cases hentries : b.registry.mappings.entries with
  | nil => rw [hentries] at hmem; exact absurd hmem List.not_mem_nil
  | cons entry rest => rfl

theorem declared_of_declareAll (hinbound : b.registry = ({} : RuleRegistry).declareAll steps) : b.registry.Declared := by
  rw [hinbound]
  exact RuleRegistry.Declared.empty.declareAll steps

theorem ruleVerdict_of_forbids (hinbound : b.registry = ({} : RuleRegistry).declareAll steps)
    (hbuild : b.registry.build = .ok rules) (h : b.RuleForbids steps m) :
    b.ruleVerdict ⟨rules, b.manager⟩ m = .error (.accessDenied m.type.name (m.destination.getD "<none>")) := by
  obtain ⟨p, hgoverns, hfalse⟩ := h
  rw [governs_declareAll_iff, ← hinbound] at hgoverns
  rw [ruleVerdict, if_pos (containsMapping_of_answers hgoverns)]
  exact (ChannelSecurity.check_of_answers (declared_of_declareAll hinbound) hbuild hgoverns _ _ _).2 hfalse

theorem ruleVerdict_of_not_forbids (hinbound : b.registry = ({} : RuleRegistry).declareAll steps)
    (hbuild : b.registry.build = .ok rules) (h : ¬ b.RuleForbids steps m) : b.ruleVerdict ⟨rules, b.manager⟩ m = .ok () := by
  have hdeclared := declared_of_declareAll hinbound
  unfold ruleVerdict
  split
  · by_cases hanswers : ∃ p, b.registry.Answers m p
    · obtain ⟨p, hp⟩ := hanswers
      have hgoverns : Governs steps m p := governs_declareAll_iff.2 (hinbound ▸ hp)
      have htrue : p.expression.evaluate b.settings.root (m.context m.user) = .ok true :=
        Classical.byContradiction fun hfalse => h ⟨p, hgoverns, hfalse⟩
      exact (ChannelSecurity.check_of_answers hdeclared hbuild hp _ _ _).1 htrue
    · exact ChannelSecurity.check_of_not_answers hdeclared hbuild hanswers _ _ _
  · rfl

end Rules

/-- A channel in which the application's interceptors follow the broker security's own is the two verdicts in front of the
application's interceptors. -/
theorem send_own_append (b : BrokerSecurity ω) (security : ChannelSecurity) (appended : List (ChannelInterceptor ω))
    (handler : MessageHandler ω α) (m : Message) (s : Surroundings ω) :
    InboundChannel.send ⟨b.ownInterceptors security ++ appended⟩ handler m s =
      match b.tokenVerdict m, b.ruleVerdict security m with
      | .error e, _ => (.error e, s)
      | .ok (), .error e => (.error e, s)
      | .ok (), .ok () =>
        ((dispatch handler appended m (onBehalf m s)).1.2,
          { s with world := (dispatch handler appended m (onBehalf m s)).2.world }) := by
  have hdispatch : InboundChannel.send ⟨b.ownInterceptors security ++ appended⟩ handler m s =
      ((dispatch handler (b.ownInterceptors security ++ appended) m { s with ambient := some ⟨none, []⟩ }).1.2,
        { s with world :=
            (dispatch handler (b.ownInterceptors security ++ appended) m
              { s with ambient := some ⟨none, []⟩ }).2.world }) := rfl
  -- the tests that are there on a condition, each by itself
  have hown : b.ownInterceptors security ++ appended =
      .identity :: ((if b.configurer.sameOriginEnforced then [.csrf] else []) ++
        ((if b.registry.containsMapping then [security.interceptor] else []) ++ appended)) := by
    simp only [ownInterceptors, List.append_assoc, List.cons_append, List.nil_append]
  rw [hdispatch, hown, dispatch_identity, dispatch_checks handler checks_csrf,
    dispatch_checks handler (checks_security security)]
  have hrule : b.ruleVerdict security m =
      if b.registry.containsMapping then security.check (Ambient.user? (some ⟨m.user, [none]⟩)) m else .ok () := rfl
  have htoken : b.tokenVerdict m =
      if b.configurer.sameOriginEnforced then ChannelInterceptor.checkToken m else .ok () := rfl
  simp only [Ambient.push, ← htoken, ← hrule]
  cases b.tokenVerdict m with
  | error e => rfl
  | ok _ =>
    cases b.ruleVerdict security m with
    | error e => rfl
    | ok _ => rfl

theorem mediated_send {b : BrokerSecurity ω} {steps : List RuleStep} {rules : MessageRules}
    (hinbound : b.registry = ({} : RuleRegistry).declareAll steps) (hrules : b.registry.build = .ok rules)
    {appended : List (ChannelInterceptor ω)} (hspares : ∀ i ∈ appended, SparesIdentity i) (handler : MessageHandler ω α)
    (m : Message) (s : Surroundings ω) :
    Mediated b steps appended handler m s
      (InboundChannel.send ⟨b.ownInterceptors ⟨rules, b.manager⟩ ++ appended⟩ handler m s) where
  tokenMissing h := by
    rw [send_own_append, tokenVerdict_of_missing h]
  tokenDiffers token h := by
    rw [send_own_append, tokenVerdict_of_differs h]
  forbidden hpasses h := by
    rw [send_own_append, tokenVerdict_of_passes hpasses, ruleVerdict_of_forbids hinbound hrules h]
  refused hpasses h p t e hpass he := by
    have hrefused := dispatch_of_refused handler appended m (onBehalf m s) (by rw [hpass]; exact he)
    rw [send_own_append, tokenVerdict_of_passes hpasses, ruleVerdict_of_not_forbids hinbound hrules h, hrefused, hpass]
  handled hpasses h p t hpass hnone := by
    have hpassed := dispatch_of_passed handler appended m (onBehalf m s) (by rw [hpass]; exact hnone)
    have hambient := ambient_pass appended hspares m (onBehalf m s)
    rw [hpass] at hambient
    rw [send_own_append, tokenVerdict_of_passes hpasses, ruleVerdict_of_not_forbids hinbound hrules h, hpassed, hpass]
    exact ⟨by rw [hambient]; rfl, rfl⟩

theorem Mediated.error_of_not_passes {b : BrokerSecurity ω} {steps : List RuleStep}
    {appended : List (ChannelInterceptor ω)} {handler : MessageHandler ω α} {m : Message} {s : Surroundings ω}
    {outcome : Except MessageError α × Surroundings ω} (h : Mediated b steps appended handler m s outcome)
    (hfails : ¬ b.TokenPasses m) : ∃ e, outcome = (.error e, s) := by
  by_cases hmissing : b.TokenMissing m
  · exact ⟨_, h.tokenMissing hmissing⟩
  · obtain ⟨token, hdiffers⟩ : ∃ token, b.TokenDiffers m token :=
      Classical.byContradiction fun hnone => hfails ⟨hmissing, not_exists.1 hnone⟩
    exact ⟨_, h.tokenDiffers token hdiffers⟩

theorem channel_eq_of_build {b : BrokerSecurity ω} {appended : List (ChannelInterceptor ω)} {rules : MessageRules}
    (hcustomize : ∀ security, b.channelSecurity = .ok security →
      b.configurer.customize ⟨b.ownInterceptors security⟩ = ⟨b.ownInterceptors security ++ appended⟩)
    (hbuild : b.registry.build = .ok rules) :
    b.channel = .ok ⟨b.ownInterceptors ⟨rules, b.manager⟩ ++ appended⟩ := by
  have hsecurity : b.channelSecurity = .ok ⟨rules, b.manager⟩ := by simp only [channelSecurity, hbuild]
  simp only [channel, configure, hsecurity, ChannelRegistration.add, List.nil_append, hcustomize _ hsecurity,
    ChannelRegistration.toChannel]

/-- **Complete mediation.**  When every text that counts is read, there is a channel, and sending a message through it comes
out as `Mediated` says: for every sequence of declarations, whatever functions the expressions call, for every message and
every handler, as long as the application appends its interceptors and they do not touch the ambient identity. -/
theorem channel_mediates {b : BrokerSecurity ω} {steps : List RuleStep} {appended : List (ChannelInterceptor ω)}
    (hinbound : b.registry = ({} : RuleRegistry).declareAll steps)
    (hreads : ∀ matcher text, Latest (registrations '/' steps) matcher text → ∃ p, parserOf steps text = .ok p)
    (hcustomize : ∀ security, b.channelSecurity = .ok security →
      b.configurer.customize ⟨b.ownInterceptors security⟩ = ⟨b.ownInterceptors security ++ appended⟩)
    (hspares : ∀ i ∈ appended, SparesIdentity i) :
    ∃ channel, b.channel = .ok channel ∧ ∀ (handler : MessageHandler ω α) (m : Message) (s : Surroundings ω),
      Mediated b steps appended handler m s (channel.send handler m s) := by
  obtain ⟨rules, hrules⟩ := RuleRegistry.build_declareAll_ok_iff.2 hreads
  rw [← hinbound] at hrules
  exact ⟨_, channel_eq_of_build hcustomize hrules, mediated_send hinbound hrules hspares⟩

/-- Refuses what has no destination. -/
def addressed : ChannelInterceptor Unit where
  name := "addressed"
  preSend m := pure (m, if m.destination.isSome then .ok () else .error (.rejected "no destination"))

/-- A rule for clients that connect, and one for everything else. -/
def twoRules : List RuleStep :=
  [.rule (.types [.connect]) .permitAll, .rule .any (.access "hasRole('ADMIN') and not isAnonymous()")]

/-- A broker with two rules and an interceptor of the application. -/
def guarded : BrokerSecurity Unit where
  configurer := {
    inbound := fun r => r.declareAll twoRules
    customize := fun registration => registration.add [addressed] }

theorem channel_mediates_guarded :
    ∃ channel, guarded.channel = .ok channel ∧
      ∀ (handler : MessageHandler Unit Nat) (m : Message) (s : Surroundings Unit),
        Mediated guarded twoRules [addressed] handler m s (channel.send handler m s) := by
  have hreads : ∀ binding ∈ registrations '/' twoRules, ∃ p, parserOf twoRules binding.2 = .ok p :=
    List.forall_mem_cons.2 ⟨⟨_, rfl⟩, List.forall_mem_singleton.2 ⟨_, rfl⟩⟩
  refine channel_mediates rfl (fun matcher text hlatest => hreads _ hlatest.mem) (fun _ _ => rfl) fun i hi m s => ?_
  cases List.mem_singleton.1 hi
  rfl

end BrokerSecurity
end BrokerGuard
