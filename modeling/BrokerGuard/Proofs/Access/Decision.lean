import BrokerGuard.Access.Decision
/-!
# Decisions by one expression

What a voter for expressions says to an object with one expression, and what an affirmative manager with one voter makes of
it.  Such a voter has an opinion (`Voter.expression_ne_abstain`), and where the voter has one, it does not matter what is to
happen when all abstain (`DecisionManager.decide_of_ne_abstain`).
-/
namespace BrokerGuard

variable {τ : Type}

section Voter

variable [Describable τ] {root : Root} {user : Option User} {object : τ} {p : ParsedExpression}

theorem Voter.expression_of_true (h : p.expression.evaluate root (Describable.describe object user) = .ok true) :
    Voter.expression root user object [.parsed p] = .granted := by
  simp only [Voter.expression, List.findSome?_cons, Attribute.parsed?, h]

theorem Voter.expression_of_not_true (h : p.expression.evaluate root (Describable.describe object user) ≠ .ok true) :
    Voter.expression root user object [.parsed p] = .denied := by
  simp only [Voter.expression, List.findSome?_cons, Attribute.parsed?]

variable (root user object p) in
theorem Voter.expression_ne_abstain : Voter.expression root user object [.parsed p] ≠ .abstain := by
  by_cases h : p.expression.evaluate root (Describable.describe object user) = .ok true
  · rw [Voter.expression_of_true h]
    decide
  · rw [Voter.expression_of_not_true h]
    decide

end Voter

namespace DecisionManager

variable {voter : Voter τ} {allow : Bool} {user : Option User} {object : τ} {attributes : List Attribute}

theorem decide_of_granted (h : voter user object attributes = .granted) :
    decide ⟨.affirmative, [voter], allow⟩ user object attributes = .ok () := by
  unfold decide allows votes
  rw [List.map_singleton, h]
  rfl

theorem decide_of_denied (h : voter user object attributes = .denied) :
    decide ⟨.affirmative, [voter], allow⟩ user object attributes = .error .denied := by
  unfold decide allows votes
  rw [List.map_singleton, h]
  rfl

theorem decide_of_ne_abstain (h : voter user object attributes ≠ .abstain) (allow allow' : Bool) :
    decide ⟨.affirmative, [voter], allow⟩ user object attributes =
      decide ⟨.affirmative, [voter], allow'⟩ user object attributes := by
  cases hvote : voter user object attributes with
  | granted => rw [decide_of_granted hvote, decide_of_granted hvote]
  | denied => rw [decide_of_denied hvote, decide_of_denied hvote]
  | abstain => exact absurd hvote h

/-- One expression is decided by its value. -/
theorem decide_expression_eq_ok_iff [Describable τ] {root : Root} {p : ParsedExpression} :
    decide ⟨.affirmative, [.expression root], allow⟩ user object [.parsed p] = .ok () ↔
      p.expression.evaluate root (Describable.describe object user) = .ok true := by
  by_cases htrue : p.expression.evaluate root (Describable.describe object user) = .ok true
  · rw [decide_of_granted (Voter.expression_of_true htrue)]
    exact ⟨fun _ => htrue, fun _ => rfl⟩
  · rw [decide_of_denied (Voter.expression_of_not_true htrue)]
    exact ⟨fun h => (by cases h), fun h => absurd h htrue⟩

end DecisionManager
end BrokerGuard
