import BrokerGuard.Access.RequestKey
import BrokerGuard.Broker
import BrokerGuard.Proofs.Access.Decision
import BrokerGuard.Proofs.Access.RuleMap
/-!
# Abstention — why no decision rests on it

A manager can be told to allow what all of its voters abstain from.  On parsed rules this makes no difference: every key
carries one expression, and on an expression the voter has an opinion, also where the expression has no value.  So the
channel of a broker and the rules for URLs decide the same, whichever they were told (`abstention_never_decides`).
-/
namespace BrokerGuard

/-! ## Parsed rules -/

theorem ChannelSecurity.check_of_parsed {rules : MessageRules} (h : rules.Parsed) (root : Root) (allow allow' : Bool) :
    check ⟨rules, ⟨.affirmative, [.expression root], allow⟩⟩ =
      check ⟨rules, ⟨.affirmative, [.expression root], allow'⟩⟩ := by
  funext user m
  unfold check
  dsimp only
  cases hfirst : rules.forMessage m with
  | none => rfl
  | some attributes =>
    obtain ⟨p, rfl⟩ := h.of_findFirst hfirst
    have hopinion := Voter.expression_ne_abstain root user m p
    dsimp only
    rw [DecisionManager.decide_of_ne_abstain hopinion allow allow']

theorem UrlAuthorizer.decide_of_parsed {rules : RequestRules} (h : rules.Parsed) (root : Root) (allow allow' : Bool)
    (user : Option User) (t : RequestTarget) :
    decide ⟨rules, ⟨.affirmative, [.expression root], allow⟩⟩ user t =
      decide ⟨rules, ⟨.affirmative, [.expression root], allow'⟩⟩ user t := by
  unfold decide
  dsimp only
  cases hfirst : rules.forTarget t with
  | none => rfl
  | some attributes =>
    obtain ⟨p, rfl⟩ := h.of_findFirst hfirst
    have hopinion := Voter.expression_ne_abstain root user t p
    exact DecisionManager.decide_of_ne_abstain hopinion allow allow'

namespace BrokerSecurity

variable {ω α : Type}

/-- The broker security, told to allow or to refuse what all voters abstain from. -/
def allowing (b : BrokerSecurity ω) (allow : Bool) : BrokerSecurity ω :=
  { b with settings := { b.settings with allowIfAllAbstain := allow } }

theorem ownInterceptors_allowing (b : BrokerSecurity ω) {rules : MessageRules} (h : rules.Parsed) (allow allow' : Bool) :
    (b.allowing allow).ownInterceptors ⟨rules, (b.allowing allow).manager⟩ =
      (b.allowing allow').ownInterceptors ⟨rules, (b.allowing allow').manager⟩ := by
  have hcheck := ChannelSecurity.check_of_parsed h b.settings.root allow allow'
  have hsecurity : (ChannelSecurity.interceptor ⟨rules, (b.allowing allow).manager⟩ : ChannelInterceptor ω) =
      ChannelSecurity.interceptor ⟨rules, (b.allowing allow').manager⟩ := by
    unfold ChannelSecurity.interceptor
    simp only [manager, allowing, hcheck]
  unfold ownInterceptors
  rw [hsecurity]
  rfl

theorem channel_allowing (b : BrokerSecurity ω) {rules : MessageRules} (hbuild : b.registry.build = .ok rules)
    (allow : Bool) :
    (b.allowing allow).channel =
      .ok (b.configurer.customize ⟨(b.allowing false).ownInterceptors ⟨rules, (b.allowing false).manager⟩⟩).toChannel := by
  have hparsed : rules.Parsed := RuleMap.parsed_of_parse hbuild
  have hbuilds : (b.allowing allow).registry.build = .ok rules := hbuild
  unfold channel configure channelSecurity
  simp only [hbuilds, ChannelRegistration.add, List.nil_append, ownInterceptors_allowing b hparsed allow false]
  rfl

/-- **No decision is made by abstention.**  Whether a manager is told to allow or to refuse what all voters abstain from,
a message sent through the channel of a broker comes out the same, and so does the decision on a request: for all rules
that parse and all functions that the expressions call.  For every key of parsed rules carries one expression, and on an
expression the voter grants or denies; an expression without a value is denied. -/
theorem abstention_never_decides :
    (∀ (b : BrokerSecurity ω) (rules : MessageRules), b.registry.build = .ok rules →
      ∃ channel channel', (b.allowing true).channel = .ok channel ∧ (b.allowing false).channel = .ok channel' ∧
        ∀ (handler : MessageHandler ω α) (m : Message) (s : Surroundings ω),
          channel.send handler m s = channel'.send handler m s) ∧
    (∀ (map : RuleMap RequestKey) (parser : Option ExpressionParser) (rules : RequestRules),
      map.parse RequestKey.display parser = .ok rules → ∀ (root : Root) (user : Option User) (t : RequestTarget),
        UrlAuthorizer.decide ⟨rules, ⟨.affirmative, [.expression root], true⟩⟩ user t =
          UrlAuthorizer.decide ⟨rules, ⟨.affirmative, [.expression root], false⟩⟩ user t) ∧
    (∀ (κ : Type) [DecidableEq κ] (map rules : RuleMap κ) (display : κ → String) (parser : Option ExpressionParser),
      map.parse display parser = .ok rules → ∀ entry ∈ rules.entries, ∃ p, entry.2 = [.parsed p] ∧
        ∀ (τ : Type) [Describable τ] (root : Root) (user : Option User) (object : τ),
          (p.expression.evaluate root (Describable.describe object user) = .ok true →
            Voter.expression root user object entry.2 = .granted) ∧
          (p.expression.evaluate root (Describable.describe object user) ≠ .ok true →
            Voter.expression root user object entry.2 = .denied)) := by
  refine ⟨fun b rules hbuild => ?_, fun map parser rules hparse root user t => ?_, ?_⟩
  · exact ⟨_, _, channel_allowing b hbuild true, channel_allowing b hbuild false, fun _ _ _ => rfl⟩
  · exact UrlAuthorizer.decide_of_parsed (RuleMap.parsed_of_parse hparse) root true false user t
  · intro κ _ map rules display parser hparse entry hentry
    obtain ⟨p, hp⟩ := RuleMap.parsed_of_parse hparse entry hentry
    refine ⟨p, hp, fun τ _ root user object => ?_⟩
    rw [hp]
    exact ⟨Voter.expression_of_true, Voter.expression_of_not_true⟩

/-- A broker with an expression that has no value, and a function of its own. -/
def unanswered : BrokerSecurity Unit where
  configurer := {
    inbound := fun r => r.declareAll
      [.rule (.destinations none ["/app/**"]) (.access "isMember() or isAuthenticated()"),
        .rule (.types [.message]) (.access "isOwner()")] }
  settings := {
    root := fun name args ctx => if name = "isMember" then some ctx.user.isSome else Root.builtin name args ctx }

/-- URL rules of which one was read before. -/
def partlyRead : RuleMap RequestKey :=
  .ofList [(.ant "/admin/**" none, [.parsed ⟨"denyAll()", .call "denyAll" []⟩]),
    (.ant "/**" (some "POST"), [.raw "hasRole('EDITOR')"])]

theorem abstention_never_decides_unanswered :
    (∃ channel channel', (unanswered.allowing true).channel = .ok channel ∧
      (unanswered.allowing false).channel = .ok channel' ∧
        ∀ (handler : MessageHandler Unit Nat) (m : Message) (s : Surroundings Unit),
          channel.send handler m s = channel'.send handler m s) ∧
    (∃ rules : RequestRules, partlyRead.parse RequestKey.display (some .standard) = .ok rules ∧
      ∀ (root : Root) (user : Option User) (t : RequestTarget),
        UrlAuthorizer.decide ⟨rules, ⟨.affirmative, [.expression root], true⟩⟩ user t =
          UrlAuthorizer.decide ⟨rules, ⟨.affirmative, [.expression root], false⟩⟩ user t) := by
  have hnever := @abstention_never_decides Unit Nat
  obtain ⟨rules, hbuild⟩ : ∃ rules, unanswered.registry.build = .ok rules := ⟨_, rfl⟩
  obtain ⟨urls, hparse⟩ : ∃ urls, partlyRead.parse RequestKey.display (some .standard) = .ok urls := ⟨_, rfl⟩
  exact ⟨hnever.1 unanswered rules hbuild, urls, hparse, hnever.2.1 partlyRead _ urls hparse⟩

end BrokerSecurity
end BrokerGuard
