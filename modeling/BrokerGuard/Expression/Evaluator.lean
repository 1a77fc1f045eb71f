import BrokerGuard.Expression.Root
/-!
# Evaluation

Operands are evaluated from left to right, and the right one only when the left one leaves the value open.  So a call that
the root does not answer is an error only where evaluation reaches it.
-/
namespace BrokerGuard

/-- Why an expression has no value. -/
inductive EvaluationError where
  /-- The root does not know the function, or the call misses an argument. -/
  | unknownFunction (name : String)
  deriving DecidableEq, Repr

/-- The wording of an evaluation error. -/
def EvaluationError.message : EvaluationError → String
  | unknownFunction name => "unknown function or invalid arguments: '" ++ name ++ "'"

namespace Expression

/-- The value of an expression. -/
def evaluate (root : Root) (ctx : EvaluationContext) : Expression → Except EvaluationError Bool
  | literal value => .ok value
  | call name args =>
    match root name args ctx with
    | some value => .ok value
    | none => .error (.unknownFunction name)
  | conj left right =>
    match left.evaluate root ctx with
    | .ok true => right.evaluate root ctx
    | decided => decided
  | disj left right =>
    match left.evaluate root ctx with
    | .ok false => right.evaluate root ctx
    | decided => decided
  | neg inner =>
    match inner.evaluate root ctx with
    | .ok value => .ok !value
    | .error e => .error e

end Expression
end BrokerGuard
