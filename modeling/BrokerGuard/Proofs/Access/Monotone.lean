import BrokerGuard.Access.RequestKey
import BrokerGuard.Channel.Security
import BrokerGuard.Proofs.Access.Voting
import BrokerGuard.Proofs.Expression.Truth
import BrokerGuard.Proofs.User.Privileges
/-!
# Monotone access — more privileges never lose it

An expression is positive when it negates nothing, does not ask for anonymity, and calls built-in functions only, with the
arguments that they require.  Each of its calls is answered, for whomever it is asked, and an answer that is yes stays yes
when the user is given more roles and authorities (`Root.builtin_mono`).  Since every call is answered, it does not matter
which calls an evaluation leaves out: the expression is true when it holds in logic, and what holds of more calls is more
(`Expression.Holds.mono`).  So under positive rules nobody loses access by having more (`access_mono`).
-/
namespace BrokerGuard

/-- The second principal has every privilege of the first.  Everybody has the privileges of nobody; a user has one that nobody
has, that of being signed in. -/
inductive AtMost : Option User → Option User → Prop
  | nobody (user : Option User) : AtMost none user
  | user {u u' : User} (h : u.Within u') : AtMost (some u) (some u')

namespace EvaluationContext

variable {user user' : Option User}

theorem userSatisfies_mono (h : AtMost user user') {test : User → Bool}
    (htest : ∀ u u' : User, u.Within u' → test u = true → test u' = true) (ctx : EvaluationContext)
    (hsatisfies : userSatisfies { ctx with user := user } test = true) :
    userSatisfies { ctx with user := user' } test = true := by
  cases h with
  | nobody => exact absurd hsatisfies Bool.false_ne_true
  | user hwithin => exact htest _ _ hwithin hsatisfies

end EvaluationContext

namespace Root

/-- The built-in functions, and how many arguments each of them requires. -/
def signatures : List (String × Nat) :=
  [("hasRole", 1), ("hasAnyRole", 0), ("hasAuthority", 1), ("hasAnyAuthority", 0), ("isAuthenticated", 0),
    ("isFullyAuthenticated", 0), ("isAnonymous", 0), ("permitAll", 0), ("denyAll", 0), ("isMessageType", 0),
    ("destinationMatches", 1), ("requestMatches", 1)]

/-- A call of a built-in function with the arguments that it requires. -/
def Signed (c : FunctionCall) : Prop := ∃ required, (c.name, required) ∈ signatures ∧ required ≤ c.args.length

/-- The built-in functions answer their calls, and no others. -/
theorem builtin_isSome_iff {ctx : EvaluationContext} {c : FunctionCall} :
    (builtin.answer? ctx c).isSome = true ↔ Signed c := by
  obtain ⟨name, args⟩ := c
  have hargs : ∀ f : String → Bool, (args.head?.map f).isSome = true ↔ 1 ≤ args.length := by
    intro f
    cases args <;> simp
  unfold answer? builtin Signed signatures
  dsimp only
  split <;> simp_all

variable {user user' : Option User}

/-- **A yes stays a yes.** -/
theorem builtin_mono (h : AtMost user user') (ctx : EvaluationContext) {c : FunctionCall} (hname : c.name ≠ "isAnonymous")
    (hyes : builtin.answer? { ctx with user := user } c = some true) :
    builtin.answer? { ctx with user := user' } c = some true := by
  obtain ⟨name, args⟩ := c
  unfold answer? builtin at hyes ⊢
  dsimp only at hname hyes ⊢
  have hsatisfies : ∀ check : User.Check,
      EvaluationContext.userSatisfies { ctx with user := user } (·.passes check) = true →
      EvaluationContext.userSatisfies { ctx with user := user' } (·.passes check) = true :=
    fun check => EvaluationContext.userSatisfies_mono h (fun _ _ hwithin => hwithin.passes check) ctx
  have hfirst : ∀ check : String → User.Check,
      (args.head?.map fun arg => EvaluationContext.userSatisfies { ctx with user := user } (·.passes (check arg))) =
        some true →
      (args.head?.map fun arg => EvaluationContext.userSatisfies { ctx with user := user' } (·.passes (check arg))) =
        some true := by
    intro check hmap
    obtain ⟨arg, harg, hpasses⟩ := Option.map_eq_some_iff.1 hmap
    exact Option.map_eq_some_iff.2 ⟨arg, harg, hsatisfies (check arg) hpasses⟩
  have hsignedIn : user.isSome = true → user'.isSome = true := by
    intro hsome
    cases h with
    | nobody => cases hsome
    | user => rfl
  split at hyes
  · exact hfirst .role hyes
  · exact congrArg some (hsatisfies (.anyRole args) (Option.some.inj hyes))
  · exact hfirst .authority hyes
  · exact congrArg some (hsatisfies (.anyAuthority args) (Option.some.inj hyes))
  · exact congrArg some (hsignedIn (Option.some.inj hyes))
  · exact congrArg some (hsignedIn (Option.some.inj hyes))
  · exact absurd rfl hname
  -- the other functions do not look at the user
  all_goals exact hyes

end Root

namespace Expression

/-- Nothing is negated. -/
def NegationFree : Expression → Prop
  | literal _ => True
  | call _ _ => True
  | conj left right => left.NegationFree ∧ right.NegationFree
  | disj left right => left.NegationFree ∧ right.NegationFree
  | neg _ => False

/-- An expression that asks for privileges only. -/
structure Positive (e : Expression) : Prop where
  negationFree : e.NegationFree
  signed : ∀ c ∈ e.calls, Root.Signed c
  notAnonymous : ∀ c ∈ e.calls, c.name ≠ "isAnonymous"

/-- Without negation, an expression that holds goes on to hold when more of its calls do. -/
theorem Holds.mono {v v' : FunctionCall → Bool} {e : Expression} (hfree : e.NegationFree)
    (h : ∀ c ∈ e.calls, v c = true → v' c = true) (hholds : e.Holds v) : e.Holds v' := by
  induction e with
  | literal value => exact hholds
  | call name args => exact h _ (List.mem_singleton_self _) hholds
  | conj left right ihl ihr =>
    obtain ⟨hleft, hright⟩ := List.forall_mem_append.1 h
    exact ⟨ihl hfree.1 hleft hholds.1, ihr hfree.2 hright hholds.2⟩
  | disj left right ihl ihr =>
    obtain ⟨hleft, hright⟩ := List.forall_mem_append.1 h
    exact hholds.imp (ihl hfree.1 hleft) (ihr hfree.2 hright)
  | neg inner => exact absurd hfree id

/-- Where every call is answered, an expression is true when it holds of the answers. -/
theorem evaluate_eq_true_iff_holds {root : Root} {ctx : EvaluationContext} {e : Expression}
    (h : ∀ c ∈ e.calls, (root.answer? ctx c).isSome) :
    e.evaluate root ctx = .ok true ↔ e.Holds fun c => (root.answer? ctx c).getD false := by
  have hcompleted : root.CompletedBy ctx fun c => (root.answer? ctx c).getD false := by
    intro c value hc
    simp only [hc, Option.getD_some]
  obtain ⟨value, hvalue⟩ := exists_evaluate_ok root ctx h
  rw [holds_iff_of_evaluate hcompleted e hvalue, hvalue]
  exact ⟨Except.ok.inj, congrArg _⟩

/-- **Evaluation of positive expressions is monotone**, although the two evaluations may make different calls. -/
theorem Positive.evaluate_mono {e : Expression} (he : e.Positive) {user user' : Option User} (h : AtMost user user')
    (ctx : EvaluationContext) (htrue : e.evaluate Root.builtin { ctx with user := user } = .ok true) :
    e.evaluate Root.builtin { ctx with user := user' } = .ok true := by
  have hanswered : ∀ user : Option User, ∀ c ∈ e.calls, (Root.builtin.answer? { ctx with user := user } c).isSome :=
    fun _ c hc => Root.builtin_isSome_iff.2 (he.signed c hc)
  rw [evaluate_eq_true_iff_holds (hanswered _)] at htrue ⊢
  refine htrue.mono he.negationFree fun c hc hyes => ?_
  obtain ⟨answer, hanswer⟩ := Option.isSome_iff_exists.1 (hanswered user c hc)
  rw [hanswer, Option.getD_some] at hyes
  rw [Root.builtin_mono h ctx (he.notAnonymous c hc) (hyes ▸ hanswer), Option.getD_some]

end Expression

/-! ## Decisions -/

theorem Vote.raised_of_opinions {v v' : Vote} (hv : v ≠ .abstain) (hv' : v' ≠ .abstain)
    (h : v = .granted → v' = .granted) : Relation.ReflTransGen Vote.Raised v v' := by
  cases v with
  | granted =>
    rw [h rfl]
  | abstain => exact absurd rfl hv
  | denied =>
    cases v' with
    | granted => exact .tail (.single .denied) .abstain
    | abstain => exact absurd rfl hv'
    | denied => exact .refl

/-- A decision by expressions on an object whose first expression is positive. -/
structure PositivelyRuled {τ : Type} [Describable τ] (manager : DecisionManager τ) (attributes : List Attribute) : Prop where
  byExpression : ∀ voter ∈ manager.voters, voter = .expression Root.builtin
  positive : ∃ p, attributes.findSome? Attribute.parsed? = some p ∧ p.expression.Positive

theorem PositivelyRuled.decide_mono {τ : Type} [Describable τ] {manager : DecisionManager τ} {attributes : List Attribute}
    (hruled : PositivelyRuled manager attributes) {user user' : Option User} (h : AtMost user user') {object : τ}
    {ctx : EvaluationContext} (hdescribe : ∀ user, Describable.describe object user = { ctx with user := user })
    (hok : manager.decide user object attributes = .ok ()) : manager.decide user' object attributes = .ok () := by
  obtain ⟨p, hfirst, hpositive⟩ := hruled.positive
  have hopinion : ∀ user, Voter.expression Root.builtin user object attributes ≠ .abstain := by
    intro user
    rw [Voter.expression_of_findSome? hfirst]
    exact Voter.expression_ne_abstain _ _ _ _
  have hgranted : Voter.expression Root.builtin user object attributes = .granted →
      Voter.expression Root.builtin user' object attributes = .granted := by
    rw [Voter.expression_eq_granted_iff hfirst, Voter.expression_eq_granted_iff hfirst, hdescribe, hdescribe]
    exact hpositive.evaluate_mono h ctx
  have hraised := Vote.raised_of_opinions (hopinion user) (hopinion user') hgranted
  rw [DecisionManager.decide_eq_ok_iff_allows] at hok ⊢
  refine DecisionRule.allows_of_raised ?_ hok
  unfold DecisionManager.votes
  rw [List.forall₂_map_left_iff, List.forall₂_map_right_iff, List.forall₂_same]
  intro voter hvoter
  rw [hruled.byExpression voter hvoter]
  exact hraised

/-- **More privileges never lose access under positive rules.**  What is true for a principal is true for everybody with at
least as many privileges.  So is what is allowed, by the rules of a channel or for URLs, when the first rule that applies is
a positive expression: for every way to combine the votes of any number of voters for expressions. -/
theorem access_mono {user user' : Option User} (h : AtMost user user') :
    (∀ (ctx : EvaluationContext) (e : Expression), e.Positive →
      e.evaluate Root.builtin { ctx with user := user } = .ok true →
      e.evaluate Root.builtin { ctx with user := user' } = .ok true) ∧
    (∀ (security : ChannelSecurity) (m : Message) (attributes : List Attribute),
      security.rules.forMessage m = some attributes → PositivelyRuled security.manager attributes →
      security.check user m = .ok () → security.check user' m = .ok ()) ∧
    (∀ (authorizer : UrlAuthorizer) (t : RequestTarget) (attributes : List Attribute),
      authorizer.rules.forTarget t = some attributes → PositivelyRuled authorizer.manager attributes →
      authorizer.decide user t = .ok () → authorizer.decide user' t = .ok ()) := by
  refine ⟨fun ctx e he => he.evaluate_mono h ctx, ?_, ?_⟩
  · intro security m attributes hrule hruled hok
    unfold ChannelSecurity.check at hok ⊢
    rw [hrule] at hok ⊢
    dsimp only at hok ⊢
    have hallowed : security.manager.decide user m attributes = .ok () := by
      cases hdecide : security.manager.decide user m attributes with
      | ok _ => rfl
      | error e => rw [hdecide] at hok; cases hok
    have hdescribe : ∀ user, Describable.describe m user = { m.context none with user := user } := fun _ => rfl
    rw [hruled.decide_mono h hdescribe hallowed]
  · intro authorizer t attributes hrule hruled hok
    unfold UrlAuthorizer.decide at hok ⊢
    rw [hrule] at hok ⊢
    have hdescribe : ∀ user, Describable.describe t user = { t.context none with user := user } := fun _ => rfl
    exact hruled.decide_mono h hdescribe hok

/-- Whoever may write posts: an editor, by the marked name of the role, with one of two authorities. -/
def postRule : ParsedExpression :=
  ⟨"hasAuthority('ROLE_EDITOR') and (hasAnyAuthority('posts:all', 'posts:write') or false)",
    .conj (.call "hasAuthority" ["ROLE_EDITOR"])
      (.disj (.call "hasAnyAuthority" ["posts:all", "posts:write"]) (.literal false))⟩

theorem postRule_positive : postRule.expression.Positive where
  negationFree := ⟨trivial, trivial, trivial⟩
  signed c hc := by
    have hall : ∀ c ∈ postRule.expression.calls, (Root.builtin.answer? {} c).isSome = true := by decide
    exact Root.builtin_isSome_iff.1 (hall c hc)
  notAnonymous := by decide

/-- A channel with the rule behind another one. -/
def postSecurity : ChannelSecurity where
  rules := ⟨[(.types [.connect], [.parsed ⟨"permitAll()", .call "permitAll" []⟩]),
    (.ofPattern "/app/posts/**", [.parsed postRule])]⟩
  manager := .affirmative (.expression Root.builtin)

/-- Somebody who may write posts. -/
def writer : User := ⟨"ada", ["EDITOR"], ["posts:write"]⟩

/-- Somebody with more privileges. -/
def publisher : User := ⟨"eve", ["OWNER", "EDITOR"], ["posts:all", "posts:write"]⟩

theorem access_mono_publisher :
    AtMost writer publisher ∧ PositivelyRuled postSecurity.manager [.parsed postRule] ∧
      postSecurity.check writer { type := .message, destination := some "/app/posts/7" } = .ok () ∧
      postSecurity.check publisher { type := .message, destination := some "/app/posts/7" } = .ok () := by
  have hmost : AtMost writer publisher := .user ⟨by decide, by decide⟩
  have hruled : PositivelyRuled postSecurity.manager [.parsed postRule] :=
    ⟨fun voter hvoter => List.mem_singleton.1 hvoter, ⟨_, rfl, postRule_positive⟩⟩
  have hwriter : postSecurity.check writer { type := .message, destination := some "/app/posts/7" } = .ok () := rfl
  obtain ⟨-, hmessages, -⟩ := access_mono hmost
  exact ⟨hmost, hruled, hwriter, hmessages postSecurity _ _ rfl hruled hwriter⟩

end BrokerGuard
