import BrokerGuard.Message.Basic
import BrokerGuard.Proofs.Access.Decision
import BrokerGuard.Proofs.Expression.Evaluation
/-!
# Truth — what an evaluation says about an expression

In logic an expression has a truth value as soon as its calls have theirs, in whatever order one looks at them (`Holds`).
Evaluation goes from left to right, leaves out what cannot matter any more, and stops at the first call that the root does
not answer.  The two agree (`evaluate_agrees_with_logic`): a value is the truth value under every way to complete the
answers of the root, an error names the call that was made last, and where every call is answered there is no error.

`made` lists the calls that an evaluation makes.  It is what a root notes that is asked in the course of the evaluation
(`evaluateM_noting`).
-/
namespace BrokerGuard

namespace Root

/-- Truth values for all calls, the same as the answers of the root where it has answers. -/
def CompletedBy (root : Root) (ctx : EvaluationContext) (v : FunctionCall → Bool) : Prop :=
  ∀ c value, root.answer? ctx c = some value → v c = value

/-- Answers a call and notes it. -/
def noting (root : Root) (ctx : EvaluationContext) (c : FunctionCall) : StateM (List FunctionCall) (Option Bool) :=
  fun calls => (root.answer? ctx c, calls ++ [c])

end Root

namespace Expression

/-- The calls of an expression, from left to right, with repetitions. -/
def calls : Expression → List FunctionCall
  | literal _ => []
  | call name args => [⟨name, args⟩]
  | conj left right => left.calls ++ right.calls
  | disj left right => left.calls ++ right.calls
  | neg inner => inner.calls

/-- The expression is true when its calls have the truth values `v`. -/
def Holds (v : FunctionCall → Bool) : Expression → Prop
  | literal value => value = true
  | call name args => v ⟨name, args⟩ = true
  | conj left right => left.Holds v ∧ right.Holds v
  | disj left right => left.Holds v ∨ right.Holds v
  | neg inner => ¬ inner.Holds v

/-- The calls that an evaluation makes, in order. -/
def made (root : Root) (ctx : EvaluationContext) : Expression → List FunctionCall
  | literal _ => []
  | call name args => [⟨name, args⟩]
  | conj left right =>
    match left.evaluate root ctx with
    | .ok true => left.made root ctx ++ right.made root ctx
    | _ => left.made root ctx
  | disj left right =>
    match left.evaluate root ctx with
    | .ok false => left.made root ctx ++ right.made root ctx
    | _ => left.made root ctx
  | neg inner => inner.made root ctx

section

variable {root : Root} {ctx : EvaluationContext} {left right : Expression}

/-! ## The calls that are made -/

theorem made_conj_of_true (h : left.evaluate root ctx = .ok true) :
    (conj left right).made root ctx = left.made root ctx ++ right.made root ctx := by
  rw [made, h]

theorem made_conj_of_ne (h : left.evaluate root ctx ≠ .ok true) :
    (conj left right).made root ctx = left.made root ctx := by
  rw [made]
  split
  · rename_i htrue
    exact absurd htrue h
  · rfl

theorem made_disj_of_false (h : left.evaluate root ctx = .ok false) :
    (disj left right).made root ctx = left.made root ctx ++ right.made root ctx := by
  rw [made, h]

theorem made_disj_of_ne (h : left.evaluate root ctx ≠ .ok false) :
    (disj left right).made root ctx = left.made root ctx := by
  rw [made]
  split
  · rename_i hfalse
    exact absurd hfalse h
  · rfl

variable (root ctx)

/-- **The calls that are made are those that the root is asked for**, and noting them does not change the value. -/
theorem evaluateM_noting (e : Expression) (calls : List FunctionCall) :
    e.evaluateM (root.noting ctx) calls = (e.evaluate root ctx, calls ++ e.made root ctx) := by
  induction e generalizing calls with
  | literal value => rw [made, List.append_nil]; rfl
  | call name args =>
    cases hroot : root.answer? ctx ⟨name, args⟩ with
    | some value =>
      have hnoted : root.noting ctx ⟨name, args⟩ calls = (some value, calls ++ [⟨name, args⟩]) := by
        rw [Root.noting, hroot]
      rw [evaluateM_call_of_some hnoted, evaluate_call_of_some hroot, made]
    | none =>
      have hnoted : root.noting ctx ⟨name, args⟩ calls = (none, calls ++ [⟨name, args⟩]) := by
        rw [Root.noting, hroot]
      rw [evaluateM_call_of_none hnoted, evaluate_call_of_none hroot, made]
  | conj left right ihl ihr =>
    have hleft := ihl calls
    by_cases htrue : left.evaluate root ctx = .ok true
    · rw [htrue] at hleft
      rw [evaluateM_conj_of_true hleft, ihr, evaluate_conj_of_true htrue, made_conj_of_true htrue, List.append_assoc]
    · rw [evaluateM_conj_of_ne hleft htrue, evaluate_conj_of_ne htrue, made_conj_of_ne htrue]
  | disj left right ihl ihr =>
    have hleft := ihl calls
    by_cases hfalse : left.evaluate root ctx = .ok false
    · rw [hfalse] at hleft
      rw [evaluateM_disj_of_false hleft, ihr, evaluate_disj_of_false hfalse, made_disj_of_false hfalse,
        List.append_assoc]
    · rw [evaluateM_disj_of_ne hleft hfalse, evaluate_disj_of_ne hfalse, made_disj_of_ne hfalse]
  | neg inner ih => rw [evaluateM_neg (ih calls), evaluate_neg, made]

/-- No call is made out of order or twice. -/
theorem made_sublist_calls (e : Expression) : (e.made root ctx).Sublist e.calls := by
  induction e with
  | literal value => exact List.Sublist.refl _
  | call name args => exact List.Sublist.refl _
  | conj left right ihl ihr =>
    by_cases htrue : left.evaluate root ctx = .ok true
    · rw [made_conj_of_true htrue]
      exact ihl.append ihr
    · rw [made_conj_of_ne htrue]
      exact ihl.trans (List.sublist_append_left _ _)
  | disj left right ihl ihr =>
    by_cases hfalse : left.evaluate root ctx = .ok false
    · rw [made_disj_of_false hfalse]
      exact ihl.append ihr
    · rw [made_disj_of_ne hfalse]
      exact ihl.trans (List.sublist_append_left _ _)
  | neg inner ih => exact ih

/-- Where there is a value, all calls that were made were answered. -/
theorem answered_of_evaluate_ok (e : Expression) :
    ∀ {value : Bool}, e.evaluate root ctx = .ok value → ∀ c ∈ e.made root ctx, (root.answer? ctx c).isSome := by
  induction e with
  | literal value => exact fun _ c hc => absurd hc List.not_mem_nil
  | call name args =>
    intro value h c hc
    obtain rfl := List.mem_singleton.1 hc
    cases hroot : root.answer? ctx ⟨name, args⟩ with
    | some value => rfl
    | none =>
      rw [evaluate_call_of_none hroot] at h
      cases h
  | conj left right ihl ihr =>
    intro value h
    by_cases htrue : left.evaluate root ctx = .ok true
    · rw [evaluate_conj_of_true htrue] at h
      rw [made_conj_of_true htrue]
      exact List.forall_mem_append.2 ⟨ihl htrue, ihr h⟩
    · rw [evaluate_conj_of_ne htrue] at h
      rw [made_conj_of_ne htrue]
      exact ihl h
  | disj left right ihl ihr =>
    intro value h
    by_cases hfalse : left.evaluate root ctx = .ok false
    · rw [evaluate_disj_of_false hfalse] at h
      rw [made_disj_of_false hfalse]
      exact List.forall_mem_append.2 ⟨ihl hfalse, ihr h⟩
    · rw [evaluate_disj_of_ne hfalse] at h
      rw [made_disj_of_ne hfalse]
      exact ihl h
  | neg inner ih =>
    intro value h
    rw [evaluate_neg] at h
    cases hinner : inner.evaluate root ctx with
    | ok value' => exact ih hinner
    | error e =>
      rw [hinner] at h
      cases h

/-- The calls up to an unanswered one that ends the evaluation. -/
def StopsAt (name : String) (calls : List FunctionCall) : Prop :=
  ∃ before args, calls = before ++ [⟨name, args⟩] ∧ root.answer? ctx ⟨name, args⟩ = none ∧
    ∀ c ∈ before, (root.answer? ctx c).isSome

variable {root ctx} in
theorem StopsAt.append {name : String} {calls before : List FunctionCall} (h : StopsAt root ctx name calls)
    (hbefore : ∀ c ∈ before, (root.answer? ctx c).isSome) : StopsAt root ctx name (before ++ calls) := by
  obtain ⟨between, args, rfl, hnone, hbetween⟩ := h
  exact ⟨before ++ between, args, (List.append_assoc ..).symm, hnone, List.forall_mem_append.2 ⟨hbefore, hbetween⟩⟩

/-- **An error names the call that was made last**, which the root does not answer, as it does all calls before it. -/
theorem stopsAt_of_evaluate_error (e : Expression) :
    ∀ {name : String}, e.evaluate root ctx = .error (.unknownFunction name) →
      StopsAt root ctx name (e.made root ctx) := by
  induction e with
  | literal value => exact fun h => by cases h
  | call name args =>
    intro name' h
    cases hroot : root.answer? ctx ⟨name, args⟩ with
    | some value =>
      rw [evaluate_call_of_some hroot] at h
      cases h
    | none =>
      rw [evaluate_call_of_none hroot] at h
      cases h
      exact ⟨[], args, rfl, hroot, fun c hc => absurd hc List.not_mem_nil⟩
  | conj left right ihl ihr =>
    intro name h
    by_cases htrue : left.evaluate root ctx = .ok true
    · rw [evaluate_conj_of_true htrue] at h
      rw [made_conj_of_true htrue]
      exact (ihr h).append (answered_of_evaluate_ok root ctx left htrue)
    · rw [evaluate_conj_of_ne htrue] at h
      rw [made_conj_of_ne htrue]
      exact ihl h
  | disj left right ihl ihr =>
    intro name h
    by_cases hfalse : left.evaluate root ctx = .ok false
    · rw [evaluate_disj_of_false hfalse] at h
      rw [made_disj_of_false hfalse]
      exact (ihr h).append (answered_of_evaluate_ok root ctx left hfalse)
    · rw [evaluate_disj_of_ne hfalse] at h
      rw [made_disj_of_ne hfalse]
      exact ihl h
  | neg inner ih =>
    intro name h
    rw [evaluate_neg] at h
    cases hinner : inner.evaluate root ctx with
    | ok value =>
      rw [hinner] at h
      cases h
    | error e =>
      rw [hinner] at h
      cases h
      exact ih hinner

/-- Where every call is answered there is a value. -/
theorem exists_evaluate_ok {e : Expression} (h : ∀ c ∈ e.calls, (root.answer? ctx c).isSome) :
    ∃ value, e.evaluate root ctx = .ok value := by
  rcases he : e.evaluate root ctx with ⟨⟨name⟩⟩ | value
  · obtain ⟨before, args, hmade, hnone, -⟩ := stopsAt_of_evaluate_error root ctx e he
    have hmem : ⟨name, args⟩ ∈ e.made root ctx := by
      rw [hmade]
      exact List.mem_append_right _ List.mem_cons_self
    have hsome := h _ ((made_sublist_calls root ctx e).subset hmem)
    rw [hnone] at hsome
    cases hsome
  · exact ⟨value, rfl⟩

end

/-! ## Truth -/

/-- **A value is the truth value under every completion of the answers.**  Where the right operand is left out, the left
one decides. -/
theorem holds_iff_of_evaluate {root : Root} {ctx : EvaluationContext} {v : FunctionCall → Bool}
    (hv : root.CompletedBy ctx v) (e : Expression) :
    ∀ {value : Bool}, e.evaluate root ctx = .ok value → (e.Holds v ↔ value = true) := by
  induction e with
  | literal value =>
    intro value' h
    cases h
    rfl
  | call name args =>
    intro value h
    cases hroot : root.answer? ctx ⟨name, args⟩ with
    | some answer =>
      rw [evaluate_call_of_some hroot] at h
      cases h
      rw [Holds, hv _ _ hroot]
    | none =>
      rw [evaluate_call_of_none hroot] at h
      cases h
  | conj left right ihl ihr =>
    intro value h
    by_cases htrue : left.evaluate root ctx = .ok true
    · rw [evaluate_conj_of_true htrue] at h
      rw [Holds, ihl htrue, ihr h, eq_self_iff_true, true_and]
    · rw [evaluate_conj_of_ne htrue] at h
      have hvalue : value ≠ true := fun heq => htrue (heq ▸ h)
      rw [Holds, ihl h]
      exact ⟨fun hand => hand.1, fun heq => absurd heq hvalue⟩
  | disj left right ihl ihr =>
    intro value h
    by_cases hfalse : left.evaluate root ctx = .ok false
    · rw [evaluate_disj_of_false hfalse] at h
      rw [Holds, ihl hfalse, ihr h]
      exact or_iff_right Bool.false_ne_true
    · rw [evaluate_disj_of_ne hfalse] at h
      have hvalue : value = true := Bool.of_not_eq_false fun heq => hfalse (heq ▸ h)
      rw [Holds, ihl h]
      exact ⟨fun _ => hvalue, fun heq => .inl heq⟩
  | neg inner ih =>
    intro value h
    rw [evaluate_neg] at h
    cases hinner : inner.evaluate root ctx with
    | error e =>
      rw [hinner] at h
      cases h
    | ok value' =>
      rw [hinner] at h
      cases h
      rw [Holds, ih hinner]
      cases value' <;> decide

/-- What logic and an evaluation have to do with one another. -/
structure AgreesWithLogic (root : Root) (ctx : EvaluationContext) (e : Expression) : Prop where
  /-- The root is asked for the calls that are made, and for no others. -/
  asked : e.evaluateM (root.noting ctx) [] = (e.evaluate root ctx, e.made root ctx)
  /-- They are calls of the expression, from left to right. -/
  inOrder : (e.made root ctx).Sublist e.calls
  value : ∀ value, e.evaluate root ctx = .ok value → ∀ v, root.CompletedBy ctx v → (e.Holds v ↔ value = true)
  error : ∀ name, e.evaluate root ctx = .error (.unknownFunction name) → StopsAt root ctx name (e.made root ctx)
  answered : (∀ c ∈ e.calls, (root.answer? ctx c).isSome) →
    ∃ value, e.evaluate root ctx = .ok value ∧ ∀ v, root.CompletedBy ctx v → (e.Holds v ↔ value = true)

theorem agreesWithLogic (root : Root) (ctx : EvaluationContext) (e : Expression) : AgreesWithLogic root ctx e where
  asked := evaluateM_noting root ctx e []
  inOrder := made_sublist_calls root ctx e
  value _ h _ hv := holds_iff_of_evaluate hv e h
  error _ h := stopsAt_of_evaluate_error root ctx e h
  answered h := by
    obtain ⟨value, hvalue⟩ := exists_evaluate_ok root ctx h
    exact ⟨value, hvalue, fun v hv => holds_iff_of_evaluate hv e hvalue⟩

end Expression

section Vote

variable {τ : Type} [Describable τ] {root : Root} {user : Option User} {object : τ} {attributes : List Attribute}
  {p : ParsedExpression}

theorem Voter.expression_of_findSome? (h : attributes.findSome? Attribute.parsed? = some p) :
    Voter.expression root user object attributes = Voter.expression root user object [.parsed p] := by
  simp only [Voter.expression, h, List.findSome?_cons, Attribute.parsed?]

theorem Voter.expression_eq_granted_iff (h : attributes.findSome? Attribute.parsed? = some p) :
    Voter.expression root user object attributes = .granted ↔
      p.expression.evaluate root (Describable.describe object user) = .ok true := by
  rw [Voter.expression_of_findSome? h]
  by_cases htrue : p.expression.evaluate root (Describable.describe object user) = .ok true
  · exact ⟨fun _ => htrue, Voter.expression_of_true⟩
  · rw [Voter.expression_of_not_true htrue]
    exact ⟨fun hvote => (by cases hvote), fun h => absurd h htrue⟩

end Vote

namespace Expression

/-- **Evaluation agrees with logic**, for all functions and all expressions.  A value that comes from evaluation is the truth
value of the expression, whatever the calls that were not answered would have said.  An error is the name of the last call
that was made; the root does not answer it, and it answers all calls before it.  When the root answers every call of the
expression, there is a value.  So where it does, a voter for expressions grants what is true and nothing else. -/
theorem evaluate_agrees_with_logic :
    (∀ (root : Root) (ctx : EvaluationContext) (e : Expression), AgreesWithLogic root ctx e) ∧
    (∀ (τ : Type) [Describable τ] (root : Root) (user : Option User) (object : τ) (attributes : List Attribute)
      (p : ParsedExpression), attributes.findSome? Attribute.parsed? = some p →
      (∀ c ∈ p.expression.calls, (root.answer? (Describable.describe object user) c).isSome) →
      ∀ v, root.CompletedBy (Describable.describe object user) v →
        (Voter.expression root user object attributes = .granted ↔ p.expression.Holds v)) := by
  refine ⟨agreesWithLogic, fun τ _ root user object attributes p hp hanswered v hv => ?_⟩
  obtain ⟨value, hvalue, hholds⟩ := (agreesWithLogic root _ p.expression).answered hanswered
  rw [Voter.expression_eq_granted_iff hp, hvalue, hholds v hv]
  exact ⟨Except.ok.inj, congrArg _⟩

/-- A message to the rooms of a chat. -/
def roomMessage : Message := { type := .message, destination := some "/app/rooms/7" }

/-- Somebody who may edit. -/
def editor : User := ⟨"ada", ["EDITOR"], []⟩

/-- A rule that was read, behind a text that was not: `hasRole('EDITOR') and not destinationMatches('/app/admin/**')`. -/
def readRule : ParsedExpression :=
  ⟨"hasRole('EDITOR') and not destinationMatches('/app/admin/**')",
    conj (call "hasRole" ["EDITOR"]) (neg (call "destinationMatches" ["/app/admin/**"]))⟩

theorem evaluate_agrees_with_logic_unanswered :
    (∀ v, Root.builtin.CompletedBy (roomMessage.context editor) v →
      (disj (call "hasRole" ["EDITOR"]) (call "isWeekend" [])).Holds v) ∧
    StopsAt Root.builtin (roomMessage.context editor) "isWeekend" [⟨"isAnonymous", []⟩, ⟨"isWeekend", []⟩] ∧
    (∃ v, Root.builtin.CompletedBy (roomMessage.context editor) v ∧
      (Voter.expression Root.builtin editor roomMessage [.raw "hasRole('OWNER')", .parsed readRule] = .granted ↔
        readRule.expression.Holds v)) := by
  obtain ⟨hagrees, hvote⟩ := evaluate_agrees_with_logic
  have hvalue := (hagrees Root.builtin (roomMessage.context editor)
    (disj (call "hasRole" ["EDITOR"]) (call "isWeekend" []))).value true rfl
  have herror := (hagrees Root.builtin (roomMessage.context editor)
    (disj (call "isAnonymous" []) (conj (call "isWeekend" []) (call "permitAll" [])))).error "isWeekend" rfl
  have hcompleted : Root.builtin.CompletedBy (roomMessage.context editor)
      fun c => (Root.builtin.answer? (roomMessage.context editor) c).getD false := by
    intro c value hc
    simp only [hc, Option.getD_some]
  have hanswered : ∀ c ∈ readRule.expression.calls,
      (Root.builtin.answer? (roomMessage.context editor) c).isSome := by decide
  exact ⟨fun v hv => (hvalue v hv).2 rfl, herror, _, hcompleted,
    hvote Message Root.builtin editor roomMessage _ readRule rfl hanswered _ hcompleted⟩

end Expression
end BrokerGuard
