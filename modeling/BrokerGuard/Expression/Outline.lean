import BrokerGuard.Expression.Basic
import BrokerGuard.Json.Encode
import BrokerGuard.Json.Decode
/-!
# Outlines

An outline lists the nodes of an expression, every operator before its operands.  No parentheses are needed: how many
operands a node takes says where they end.  Reading goes from right to left, with a stack of the expressions read so far.
-/
namespace BrokerGuard
namespace Expression

/-- One node of an expression. -/
inductive Node where
  | literal (value : Bool)
  | call (name : String) (args : List String)
  | conj
  | disj
  | neg
  deriving DecidableEq, Repr

/-- A node as a value: a truth value, a name with its arguments, or the word of an operator. -/
def Node.toJson : Node → Json
  | literal value => value
  | call name args => name :: args
  | conj => "and"
  | disj => "or"
  | neg => "not"

/-- Reads a node. -/
def Node.ofJson? : Json → Option Node
  | .bool value => some (literal value)
  | .string "and" => some conj
  | .string "or" => some disj
  | .string "not" => some neg
  | .array (name :: args) =>
    match Json.decode? name, args.mapM Json.decode? with
    | some name, some args => some (call name args)
    | _, _ => none
  | _ => none

instance : Json.Encode Node := ⟨Node.toJson⟩
instance : Json.Decode Node := ⟨Node.ofJson?⟩

/-- The nodes of an expression, operators first. -/
def outline : Expression → List Node
  | literal value => [.literal value]
  | call name args => [.call name args]
  | conj left right => .conj :: (left.outline ++ right.outline)
  | disj left right => .disj :: (left.outline ++ right.outline)
  | neg inner => .neg :: inner.outline

/-- Puts a node in front of the expressions that follow it, of which it takes its operands. -/
def Node.push : Node → List Expression → Option (List Expression)
  | .literal value, stack => some (.literal value :: stack)
  | .call name args, stack => some (.call name args :: stack)
  | .conj, left :: right :: stack => some (.conj left right :: stack)
  | .disj, left :: right :: stack => some (.disj left right :: stack)
  | .neg, inner :: stack => some (.neg inner :: stack)
  | _, _ => none

/-- The expressions that follow one another in a list of nodes. -/
def stackOf : List Node → Option (List Expression)
  | [] => some []
  | node :: rest => (stackOf rest).bind node.push

/-- The expression of an outline. -/
def ofOutline? (nodes : List Node) : Option Expression :=
  match stackOf nodes with
  | some [e] => some e
  | _ => none

/-- An outline in front of other nodes puts its expression on their stack. -/
theorem stackOf_outline_append (e : Expression) (rest : List Node) :
    stackOf (e.outline ++ rest) = (stackOf rest).map (e :: ·) := by
  induction e generalizing rest with
  | literal value => cases h : stackOf rest <;> simp [outline, stackOf, Node.push, h]
  | call name args => cases h : stackOf rest <;> simp [outline, stackOf, Node.push, h]
  | conj left right ihl ihr =>
    cases h : stackOf rest <;> simp [outline, stackOf, Node.push, List.append_assoc, ihl, ihr, h]
  | disj left right ihl ihr =>
    cases h : stackOf rest <;> simp [outline, stackOf, Node.push, List.append_assoc, ihl, ihr, h]
  | neg inner ih => cases h : stackOf rest <;> simp [outline, stackOf, Node.push, ih, h]

/-- A node that finds its operands writes itself in front of their outlines. -/
theorem outline_push {node : Node} {stack pushed : List Expression} (h : node.push stack = some pushed) :
    pushed.flatMap outline = node :: stack.flatMap outline := by
  unfold Node.push at h
  split at h <;> simp only [Option.some.injEq, reduceCtorEq] at h <;> subst h <;>
    simp [outline, List.append_assoc]

/-- A list of nodes is nothing but the outlines of the expressions it holds. -/
theorem eq_flatMap_of_stackOf : ∀ {nodes : List Node} {stack : List Expression},
    stackOf nodes = some stack → nodes = stack.flatMap outline
  | [], stack, h => by
    rw [stackOf, Option.some.injEq] at h
    rw [← h]; rfl
  | node :: rest, stack, h => by
    obtain ⟨operands, hr, hp⟩ := Option.bind_eq_some_iff.1 h
    rw [outline_push hp, ← eq_flatMap_of_stackOf hr]

/-- The nodes that read as an expression are its outline and no others. -/
theorem ofOutline?_eq_some_iff {nodes : List Node} {e : Expression} :
    ofOutline? nodes = some e ↔ nodes = e.outline := by
  constructor
  · intro h
    unfold ofOutline? at h
    split at h
    · rename_i x hx
      rw [Option.some.injEq] at h
      rw [eq_flatMap_of_stackOf hx, ← h, List.flatMap_singleton]
    · exact absurd h (by simp)
  · rintro rfl
    have h := stackOf_outline_append e []
    rw [List.append_nil] at h
    simp [ofOutline?, h, stackOf]

end Expression
end BrokerGuard
