import BrokerGuard.Expression.Evaluator
/-!
# Evaluation with effects

A root that is asked may note what it was asked, or keep something for the next call.  `evaluateM` evaluates with such a
root; it asks for the same calls in the same order as the evaluation does.  Effects that keep an invariant, and under it
answer as a root without effects, leave the value of every expression as it is (`evaluateM_of_answers`).
-/
namespace BrokerGuard

/-- A call of a function. -/
structure FunctionCall where
  name : String
  args : List String
  deriving DecidableEq

/-- The answer to a call, if the root has one. -/
def Root.answer? (root : Root) (ctx : EvaluationContext) (c : FunctionCall) : Option Bool := root c.name c.args ctx

namespace Expression

/-- Evaluation with a root that has effects. -/
def evaluateM {m : Type → Type} [Monad m] (ask : FunctionCall → m (Option Bool)) :
    Expression → m (Except EvaluationError Bool)
  | literal value => pure (.ok value)
  | call name args => do
    match ← ask ⟨name, args⟩ with
    | some value => pure (.ok value)
    | none => pure (.error (.unknownFunction name))
  | conj left right => do
    match ← left.evaluateM ask with
    | .ok true => right.evaluateM ask
    | decided => pure decided
  | disj left right => do
    match ← left.evaluateM ask with
    | .ok false => right.evaluateM ask
    | decided => pure decided
  | neg inner => do
    match ← inner.evaluateM ask with
    | .ok value => pure (.ok !value)
    | .error e => pure (.error e)

/-! ## One operator at a time -/

section Operators

variable {root : Root} {ctx : EvaluationContext} {name : String} {args : List String} {left right : Expression}

theorem evaluate_call_of_some {value : Bool} (h : root.answer? ctx ⟨name, args⟩ = some value) :
    (call name args).evaluate root ctx = .ok value := by
  unfold Root.answer? at h
  rw [evaluate, h]

theorem evaluate_call_of_none (h : root.answer? ctx ⟨name, args⟩ = none) :
    (call name args).evaluate root ctx = .error (.unknownFunction name) := by
  unfold Root.answer? at h
  rw [evaluate, h]

theorem evaluate_conj_of_true (h : left.evaluate root ctx = .ok true) :
    (conj left right).evaluate root ctx = right.evaluate root ctx := by
  rw [evaluate, h]

theorem evaluate_conj_of_ne (h : left.evaluate root ctx ≠ .ok true) :
    (conj left right).evaluate root ctx = left.evaluate root ctx := by
  rw [evaluate]
  split
  · rename_i htrue
    exact absurd htrue h
  · rfl

theorem evaluate_disj_of_false (h : left.evaluate root ctx = .ok false) :
    (disj left right).evaluate root ctx = right.evaluate root ctx := by
  rw [evaluate, h]

theorem evaluate_disj_of_ne (h : left.evaluate root ctx ≠ .ok false) :
    (disj left right).evaluate root ctx = left.evaluate root ctx := by
  rw [evaluate]
  split
  · rename_i hfalse
    exact absurd hfalse h
  · rfl

theorem evaluate_neg (inner : Expression) :
    (neg inner).evaluate root ctx = (inner.evaluate root ctx).map (! ·) := by
  rw [evaluate]
  cases inner.evaluate root ctx <;> rfl

end Operators

section Effects

variable {σ : Type} {ask : FunctionCall → StateM σ (Option Bool)} {s s' : σ} {name : String} {args : List String}
  {left right inner : Expression} {outcome : Except EvaluationError Bool}

theorem evaluateM_call_of_some {value : Bool} (h : ask ⟨name, args⟩ s = (some value, s')) :
    (call name args).evaluateM ask s = (.ok value, s') := by
  simp only [evaluateM, bind, StateT.bind, h]
  rfl

theorem evaluateM_call_of_none (h : ask ⟨name, args⟩ s = (none, s')) :
    (call name args).evaluateM ask s = (.error (.unknownFunction name), s') := by
  simp only [evaluateM, bind, StateT.bind, h]
  rfl

theorem evaluateM_conj_of_true (h : left.evaluateM ask s = (.ok true, s')) :
    (conj left right).evaluateM ask s = right.evaluateM ask s' := by
  simp only [evaluateM, bind, StateT.bind, h]

theorem evaluateM_conj_of_ne (h : left.evaluateM ask s = (outcome, s')) (hne : outcome ≠ .ok true) :
    (conj left right).evaluateM ask s = (outcome, s') := by
  simp only [evaluateM, bind, StateT.bind, h]
  rfl

theorem evaluateM_disj_of_false (h : left.evaluateM ask s = (.ok false, s')) :
    (disj left right).evaluateM ask s = right.evaluateM ask s' := by
  simp only [evaluateM, bind, StateT.bind, h]

theorem evaluateM_disj_of_ne (h : left.evaluateM ask s = (outcome, s')) (hne : outcome ≠ .ok false) :
    (disj left right).evaluateM ask s = (outcome, s') := by
  simp only [evaluateM, bind, StateT.bind, h]
  rfl

theorem evaluateM_neg (h : inner.evaluateM ask s = (outcome, s')) :
    (neg inner).evaluateM ask s = (outcome.map (! ·), s') := by
  simp only [evaluateM, bind, StateT.bind, h]
  cases outcome <;> rfl

/-- **Effects do not change a value**, if they keep an invariant under which the answers are those of a root without
effects. -/
theorem evaluateM_of_answers {root : Root} {ctx : EvaluationContext} {Inv : σ → Prop}
    (hask : ∀ c s, Inv s → ∃ s', ask c s = (root.answer? ctx c, s') ∧ Inv s') (e : Expression) :
    ∀ s, Inv s → ∃ s', e.evaluateM ask s = (e.evaluate root ctx, s') ∧ Inv s' := by
  induction e with
  | literal value => exact fun s hs => ⟨s, rfl, hs⟩
  | call name args =>
    intro s hs
    obtain ⟨s', hanswer, hs'⟩ := hask ⟨name, args⟩ s hs
    cases hroot : root.answer? ctx ⟨name, args⟩ with
    | some value =>
      rw [hroot] at hanswer
      exact ⟨s', by rw [evaluateM_call_of_some hanswer, evaluate_call_of_some hroot], hs'⟩
    | none =>
      rw [hroot] at hanswer
      exact ⟨s', by rw [evaluateM_call_of_none hanswer, evaluate_call_of_none hroot], hs'⟩
  | conj left right ihl ihr =>
    intro s hs
    obtain ⟨s', hleft, hs'⟩ := ihl s hs
    by_cases htrue : left.evaluate root ctx = .ok true
    · rw [htrue] at hleft
      rw [evaluateM_conj_of_true hleft, evaluate_conj_of_true htrue]
      exact ihr s' hs'
    · exact ⟨s', by rw [evaluateM_conj_of_ne hleft htrue, evaluate_conj_of_ne htrue], hs'⟩
  | disj left right ihl ihr =>
    intro s hs
    obtain ⟨s', hleft, hs'⟩ := ihl s hs
    by_cases hfalse : left.evaluate root ctx = .ok false
    · rw [hfalse] at hleft
      rw [evaluateM_disj_of_false hleft, evaluate_disj_of_false hfalse]
      exact ihr s' hs'
    · exact ⟨s', by rw [evaluateM_disj_of_ne hleft hfalse, evaluate_disj_of_ne hfalse], hs'⟩
  | neg inner ih =>
    intro s hs
    obtain ⟨s', hinner, hs'⟩ := ih s hs
    exact ⟨s', by rw [evaluateM_neg hinner, evaluate_neg], hs'⟩

end Effects

end Expression
end BrokerGuard
