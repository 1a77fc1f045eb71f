import BrokerGuard.Proofs.Access.Decision
import BrokerGuard.Proofs.Access.RuleMap
import BrokerGuard.Channel.Security
/-!
# Rules — which expression a registry has for a message

Whatever is declared, the registry holds distinct matchers, each with one expression that is not read yet (`Declared`).  So
the rule for a message can be read off the registry before it is built (`Answers`): it is the expression of the first matcher
that applies.  The decision on a message is that expression's value, and a message that no rule answers passes
(`ChannelSecurity.check_of_answers`, `ChannelSecurity.check_of_not_answers`).
-/
namespace BrokerGuard
namespace RuleRegistry

/-- The state of a registry after declarations. -/
structure Declared (r : RuleRegistry) : Prop where
  nodup : r.mappings.keys.Nodup
  raw : ∀ entry ∈ r.mappings.entries, ∃ text, entry.2 = [.raw text]

theorem Declared.empty : Declared {} := ⟨List.nodup_nil, fun _ h => absurd h List.not_mem_nil⟩

theorem Declared.insert {r : RuleRegistry} (h : r.Declared) (matcher : MessageMatcher) (text : String) :
    Declared { r with mappings := r.mappings.insert matcher [.raw text] } where
  nodup := RuleMap.nodup_keys_insert h.nodup matcher [.raw text]
  raw entry hentry := by
    rcases RuleMap.mem_insertInto hentry with rfl | hentry
    · exact ⟨text, rfl⟩
    · exact h.raw entry hentry

theorem Declared.bind {r : RuleRegistry} (h : r.Declared) (matchers : List MessageMatcher) (text : String) :
    (r.bind matchers text).Declared := by
  induction matchers generalizing r with
  | nil => exact h
  | cons matcher matchers ih => exact ih (h.insert matcher text)

theorem Declared.declare {r : RuleRegistry} (h : r.Declared) (step : RuleStep) : (r.declare step).Declared := by
  cases step with
  | separator separator => exact ⟨h.nodup, h.raw⟩
  | parser parser => exact ⟨h.nodup, h.raw⟩
  | rule selector rule => exact h.bind _ _

/-- **Every registry is declared**, whatever steps it took. -/
theorem Declared.declareAll {r : RuleRegistry} (h : r.Declared) (steps : List RuleStep) :
    (r.declareAll steps).Declared := by
  induction steps generalizing r with
  | nil => exact h
  | cons step steps ih => exact ih (h.declare step)

/-- The first registered matcher that applies to the message carries the expression. -/
def Answers (r : RuleRegistry) (m : Message) (p : ParsedExpression) : Prop :=
  ∃ matcher text, (r.mappings.entries.find? fun e => e.1.applies m) = some (matcher, [.raw text]) ∧
    r.parser text = .ok p

theorem Answers.unique {r : RuleRegistry} {m : Message} {p p' : ParsedExpression} (h : r.Answers m p)
    (h' : r.Answers m p') : p = p' := by
  obtain ⟨matcher, text, hfind, hp⟩ := h
  obtain ⟨matcher', text', hfind', hp'⟩ := h'
  rw [hfind] at hfind'
  cases hfind'
  exact Except.ok.inj (hp.symm.trans hp')

/-- **The parsed rules answer, for a message, the expression that the registry has for it.** -/
theorem forMessage_eq_some_iff {r : RuleRegistry} (h : r.Declared) {rules : MessageRules} (hbuild : r.build = .ok rules)
    {m : Message} {attributes : List Attribute} :
    rules.forMessage m = some attributes ↔ ∃ p, r.Answers m p ∧ attributes = [.parsed p] := by
  rw [MessageRules.forMessage, RuleMap.findFirst_of_parse h.nodup hbuild]
  constructor
  · intro heq
    obtain ⟨⟨matcher, raw⟩, hfind, hconverted⟩ := Option.bind_eq_some_iff.1 heq
    obtain ⟨text, rfl⟩ := h.raw _ (List.mem_of_find?_eq_some hfind)
    cases hp : r.parser text with
    | error e => rw [RuleMap.convert_raw_of_error hp] at hconverted; cases hconverted
    | ok p =>
      rw [RuleMap.convert_raw_of_ok hp] at hconverted
      exact ⟨p, ⟨matcher, text, hfind, hp⟩, (Option.some.inj hconverted).symm⟩
  · rintro ⟨p, ⟨matcher, text, hfind, hp⟩, rfl⟩
    rw [hfind, Option.bind_some, RuleMap.convert_raw_of_ok hp]
    rfl

end RuleRegistry

namespace ChannelSecurity

/-- The rules with an affirmative manager that asks one voter for expressions. -/
def byExpression (rules : MessageRules) (root : Root) (allowIfAllAbstain : Bool) : ChannelSecurity :=
  ⟨rules, { rule := .affirmative, voters := [.expression root], allowIfAllAbstain := allowIfAllAbstain }⟩

variable {r : RuleRegistry} {rules : MessageRules} {m : Message}

theorem check_of_not_answers (h : r.Declared) (hbuild : r.build = .ok rules) (hm : ¬ ∃ p, r.Answers m p) (root : Root)
    (allow : Bool) (user : Option User) : (byExpression rules root allow).check user m = .ok () := by
  have hnone : rules.forMessage m = none := by
    cases hf : rules.forMessage m with
    | none => rfl
    | some attributes =>
      obtain ⟨p, hp, -⟩ := (RuleRegistry.forMessage_eq_some_iff h hbuild).1 hf
      exact absurd ⟨p, hp⟩ hm
  simp only [check, byExpression, hnone]

/-- **A message passes a rule exactly when the rule's expression is true**, and is refused otherwise, also when the
expression has no value. -/
theorem check_of_answers (h : r.Declared) (hbuild : r.build = .ok rules) {p : ParsedExpression} (hm : r.Answers m p)
    (root : Root) (allow : Bool) (user : Option User) :
    (p.expression.evaluate root (m.context user) = .ok true → (byExpression rules root allow).check user m = .ok ()) ∧
    (p.expression.evaluate root (m.context user) ≠ .ok true → (byExpression rules root allow).check user m =
      .error (.accessDenied m.type.name (m.destination.getD "<none>"))) := by
  have hsome : (byExpression rules root allow).rules.forMessage m = some [.parsed p] :=
    (RuleRegistry.forMessage_eq_some_iff h hbuild).2 ⟨p, hm, rfl⟩
  unfold check
  rw [hsome]
  refine ⟨fun htrue => ?_, fun hfalse => ?_⟩
  · have hvote : Voter.expression root user m [.parsed p] = .granted := Voter.expression_of_true htrue
    have hdecide : (byExpression rules root allow).manager.decide user m [.parsed p] = .ok () :=
      DecisionManager.decide_of_granted hvote
    simp only [hdecide]
  · have hvote : Voter.expression root user m [.parsed p] = .denied := Voter.expression_of_not_true hfalse
    have hdecide : (byExpression rules root allow).manager.decide user m [.parsed p] = .error .denied :=
      DecisionManager.decide_of_denied hvote
    simp only [hdecide]

end ChannelSecurity
end BrokerGuard
