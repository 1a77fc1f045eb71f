import BrokerGuard.Access.Attribute
import BrokerGuard.Expression.Evaluator
import BrokerGuard.Text.Quoted
/-!
# Decisions by vote

Voters grant, deny or abstain, and a rule says how the votes decide.  Votes are cast in order, and under two of the rules a
single vote can settle the matter, so that later voters are not asked.
-/
namespace BrokerGuard

/-- What a voter says. -/
inductive Vote where
  | granted
  | abstain
  | denied
  deriving DecidableEq, Repr

/-- How votes are combined. -/
inductive DecisionRule where
  /-- Any grant allows; otherwise any denial denies. -/
  | affirmative
  /-- The majority decides; a tie allows. -/
  | consensus
  /-- Any denial denies; otherwise any grant allows. -/
  | unanimous
  deriving DecidableEq, Repr

/-- Access is refused. -/
inductive AccessDenied where
  | denied
  deriving DecidableEq, Repr

/-- The wording of a refusal. -/
def AccessDenied.message : AccessDenied → String
  | denied => "Access is denied"

/-- Casts a vote for a user and an object with attributes. -/
abbrev Voter (τ : Type) := Option User → τ → List Attribute → Vote

/-- An object that can be described to the expression language. -/
class Describable (τ : Type) where
  describe : τ → Option User → EvaluationContext

/-- A voter of one opinion. -/
def Voter.constant {τ : Type} (vote : Vote) : Voter τ := fun _ _ _ => vote

/-- Votes with the first expression among the attributes and abstains when there is none.  An expression without a value
counts as a denial. -/
def Voter.expression {τ : Type} [Describable τ] (root : Root) : Voter τ := fun user object attributes =>
  match attributes.findSome? Attribute.parsed? with
  | none => .abstain
  | some parsed =>
    match parsed.expression.evaluate root (Describable.describe object user) with
    | .ok true => .granted
    | _ => .denied

namespace DecisionRule

/-- The name of the rule. -/
def name : DecisionRule → String
  | affirmative => "Affirmative"
  | consensus => "Consensus"
  | unanimous => "Unanimous"

/-- A vote that settles the matter at once. -/
def settles : DecisionRule → Vote → Option Bool
  | affirmative, .granted => some true
  | unanimous, .denied => some false
  | _, _ => none

/-- The outcome when no vote settled the matter. -/
def outcome (rule : DecisionRule) (allowIfAllAbstain : Bool) (granted denied : Nat) : Bool :=
  match rule with
  | affirmative => if denied > 0 then false else allowIfAllAbstain
  | consensus => if granted + denied > 0 then decide (denied ≤ granted) else allowIfAllAbstain
  | unanimous => if granted > 0 then true else allowIfAllAbstain

/-- Counts votes until one settles the matter. -/
def count (rule : DecisionRule) (allowIfAllAbstain : Bool) (granted denied : Nat) : List Vote → Bool
  | [] => rule.outcome allowIfAllAbstain granted denied
  | vote :: rest =>
    match rule.settles vote with
    | some allowed => allowed
    | none =>
      match vote with
      | .granted => count rule allowIfAllAbstain (granted + 1) denied rest
      | .denied => count rule allowIfAllAbstain granted (denied + 1) rest
      | .abstain => count rule allowIfAllAbstain granted denied rest

/-- The votes that are asked for: up to the first that settles the matter. -/
def asked (rule : DecisionRule) : List Vote → List Vote
  | [] => []
  | vote :: rest => if (rule.settles vote).isSome then [vote] else vote :: asked rule rest

end DecisionRule

/-- Voters and the rule that combines their votes. -/
structure DecisionManager (τ : Type) where
  rule : DecisionRule
  voters : List (Voter τ) := []
  allowIfAllAbstain : Bool := false

namespace DecisionManager

variable {τ : Type}

/-- An affirmative decision by one voter. -/
def affirmative (voter : Voter τ) : DecisionManager τ := ⟨.affirmative, [voter], false⟩

/-- The manager with one more voter. -/
def addVoter (m : DecisionManager τ) (voter : Voter τ) : DecisionManager τ := { m with voters := m.voters ++ [voter] }

/-- The votes of all voters. -/
def votes (m : DecisionManager τ) (user : Option User) (object : τ) (attributes : List Attribute) : List Vote :=
  m.voters.map fun voter => voter user object attributes

/-- Access is allowed. -/
def allows (m : DecisionManager τ) (user : Option User) (object : τ) (attributes : List Attribute) : Bool :=
  m.rule.count m.allowIfAllAbstain 0 0 (m.votes user object attributes)

/-- Access is allowed or refused. -/
def decide (m : DecisionManager τ) (user : Option User) (object : τ) (attributes : List Attribute) :
    Except AccessDenied Unit :=
  if m.allows user object attributes then .ok () else .error .denied

/-- The display of a manager. -/
def display (m : DecisionManager τ) : String :=
  Text.record "AccessDecisionManager" [("voters", toString m.voters.length), ("rule", m.rule.name),
    ("allow_if_all_abstain", if m.allowIfAllAbstain then "true" else "false")]

end DecisionManager
end BrokerGuard
