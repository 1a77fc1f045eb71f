import BrokerGuard.Access.Decision
import Mathlib.Data.List.Perm.Basic
import Mathlib.Logic.Relation
/-!
# Voting — what a row of votes comes to

Votes are counted one after the other, and under two of the rules one vote can end the count.  `DecisionRule.Allows` says
what each rule means without a count, for the votes as a whole.  The count decides it (`count_eq_true_iff`), because a vote
that ends the count is one that the votes behind it could not outweigh (`count_eq`).

What the three rules look at are the numbers of grants and of denials (`allows_iff`).  So the order of the voters is
irrelevant, a raised vote never takes an access away, and the rules are ordered by what they allow.
-/
namespace BrokerGuard

/-- One vote is raised by one step. -/
inductive Vote.Raised : Vote → Vote → Prop
  | denied : Raised .denied .abstain
  | abstain : Raised .abstain .granted

namespace DecisionRule

/-- What the rules mean for the votes as a whole. -/
def Allows (allowIfAllAbstain : Bool) (votes : List Vote) : DecisionRule → Prop
  | affirmative => .granted ∈ votes ∨ (.denied ∉ votes ∧ allowIfAllAbstain = true)
  | consensus =>
    ((∃ vote ∈ votes, vote ≠ .abstain) ∧ votes.count .denied ≤ votes.count .granted) ∨
      ((∀ vote ∈ votes, vote = .abstain) ∧ allowIfAllAbstain = true)
  | unanimous => .denied ∉ votes ∧ (.granted ∈ votes ∨ allowIfAllAbstain = true)

/-! ## What the rules look at -/

/-- The meaning of a rule in the numbers of grants and denials. -/
def AllowsTally (allow : Bool) (granted denied : Nat) : DecisionRule → Prop
  | affirmative => 0 < granted ∨ (denied = 0 ∧ allow = true)
  | consensus => (0 < granted + denied ∧ denied ≤ granted) ∨ (granted + denied = 0 ∧ allow = true)
  | unanimous => denied = 0 ∧ (0 < granted ∨ allow = true)

theorem all_abstain_iff {votes : List Vote} :
    (∀ vote ∈ votes, vote = .abstain) ↔ votes.count .granted + votes.count .denied = 0 := by
  rw [Nat.add_eq_zero_iff, List.count_eq_zero, List.count_eq_zero]
  constructor
  · intro h
    exact ⟨fun hg => absurd (h _ hg) (by decide), fun hd => absurd (h _ hd) (by decide)⟩
  · rintro ⟨hg, hd⟩ vote hvote
    cases vote with
    | granted => exact absurd hvote hg
    | abstain => rfl
    | denied => exact absurd hvote hd

theorem exists_opinion_iff {votes : List Vote} :
    (∃ vote ∈ votes, vote ≠ .abstain) ↔ 0 < votes.count .granted + votes.count .denied := by
  rw [Nat.pos_iff_ne_zero, Ne, ← all_abstain_iff]
  simp only [not_forall, exists_prop]

theorem allows_iff {rule : DecisionRule} {allow : Bool} {votes : List Vote} :
    rule.Allows allow votes ↔ rule.AllowsTally allow (votes.count .granted) (votes.count .denied) := by
  cases rule with
  | affirmative => exact or_congr List.count_pos_iff.symm (and_congr_left' List.count_eq_zero.symm)
  | consensus => exact or_congr (and_congr_left' exists_opinion_iff) (and_congr_left' all_abstain_iff)
  | unanimous => exact and_congr List.count_eq_zero.symm (or_congr_left List.count_pos_iff.symm)

/-! ## The count -/

/-- **The first vote that settles the matter decides**, and when there is none, all votes are counted. -/
theorem count_eq (rule : DecisionRule) (allow : Bool) : ∀ (votes : List Vote) (granted denied : Nat),
    rule.count allow granted denied votes =
      (votes.findSome? rule.settles).getD
        (rule.outcome allow (granted + votes.count .granted) (denied + votes.count .denied))
  | [], granted, denied => rfl
  | vote :: rest, granted, denied => by
    unfold count
    rw [List.findSome?_cons]
    cases hsettles : rule.settles vote with
    | some allowed => rfl
    | none =>
      cases vote with
      | granted => simp [count_eq rule allow rest, Nat.add_right_comm, ← Nat.add_assoc]
      | abstain => simp [count_eq rule allow rest]
      | denied => simp [count_eq rule allow rest, Nat.add_right_comm, ← Nat.add_assoc]

theorem findSome?_settles_affirmative (votes : List Vote) :
    votes.findSome? affirmative.settles = if .granted ∈ votes then some true else none := by
  induction votes with
  | nil => rfl
  | cons vote rest ih => cases vote <;> simp [List.findSome?_cons, settles, ih]

theorem findSome?_settles_consensus (votes : List Vote) : votes.findSome? consensus.settles = none := by
  rw [List.findSome?_eq_none_iff]
  intro vote _
  cases vote <;> rfl

theorem findSome?_settles_unanimous (votes : List Vote) :
    votes.findSome? unanimous.settles = if .denied ∈ votes then some false else none := by
  induction votes with
  | nil => rfl
  | cons vote rest ih => cases vote <;> simp [List.findSome?_cons, settles, ih]

theorem outcome_consensus_iff {allow : Bool} {granted denied : Nat} :
    consensus.outcome allow granted denied = true ↔ consensus.AllowsTally allow granted denied := by
  unfold outcome AllowsTally
  by_cases hopinion : granted + denied > 0
  · rw [if_pos hopinion, decide_eq_true_iff]
    exact ⟨fun hle => .inl ⟨hopinion, hle⟩, fun h => by omega⟩
  · rw [if_neg hopinion]
    exact ⟨fun hallow => .inr ⟨by omega, hallow⟩, fun h => (h.resolve_left fun hboth => hopinion hboth.1).2⟩

/-- **The count decides what the rule means.** -/
theorem count_eq_true_iff (rule : DecisionRule) (allow : Bool) (votes : List Vote) :
    rule.count allow 0 0 votes = true ↔ rule.Allows allow votes := by
  rw [count_eq, allows_iff, Nat.zero_add, Nat.zero_add]
  cases rule with
  | affirmative =>
    rw [findSome?_settles_affirmative]
    by_cases hg : Vote.granted ∈ votes
    · simp [hg, AllowsTally, List.count_pos_iff.2 hg]
    · have hnone := List.count_eq_zero.2 hg
      by_cases hd : votes.count .denied = 0
      · simp [hg, AllowsTally, outcome, hnone, hd]
      · simp [hg, AllowsTally, outcome, hnone, hd, Nat.pos_of_ne_zero hd]
  | consensus =>
    rw [findSome?_settles_consensus]
    exact outcome_consensus_iff
  | unanimous =>
    rw [findSome?_settles_unanimous]
    by_cases hd : Vote.denied ∈ votes
    · simp [hd, AllowsTally, Nat.ne_of_gt (List.count_pos_iff.2 hd)]
    · have hnone := List.count_eq_zero.2 hd
      by_cases hg : 0 < votes.count .granted
      · simp [hd, AllowsTally, outcome, hnone, hg]
      · simp [hd, AllowsTally, outcome, hnone, hg]

/-! ## Pairs of rows of votes -/

section Pairs

variable {rule : DecisionRule} {allow : Bool} {votes votes' : List Vote}

theorem allows_perm (h : votes.Perm votes') : rule.Allows allow votes ↔ rule.Allows allow votes' := by
  rw [allows_iff, allows_iff, h.count_eq, h.count_eq]

theorem count_perm (h : votes.Perm votes') : rule.count allow 0 0 votes = rule.count allow 0 0 votes' := by
  rw [Bool.eq_iff_iff, count_eq_true_iff, count_eq_true_iff]
  exact allows_perm h

theorem eq_of_raised {v v' : Vote} (h : Relation.ReflTransGen Vote.Raised v v') :
    (v = .granted → v' = .granted) ∧ (v' = .denied → v = .denied) := by
  induction h with
  | refl => exact ⟨id, id⟩
  | tail _ hstep ih =>
    cases hstep with
    | denied => exact ⟨fun hv => absurd (ih.1 hv) (by decide), fun hv => absurd hv (by decide)⟩
    | abstain => exact ⟨fun _ => rfl, fun hv => absurd hv (by decide)⟩

theorem count_of_raised (h : List.Forall₂ (Relation.ReflTransGen Vote.Raised) votes votes') :
    votes.count .granted ≤ votes'.count .granted ∧ votes'.count .denied ≤ votes.count .denied := by
  induction h with
  | nil => simp
  | @cons v v' rest rest' hv _ ih =>
    obtain ⟨hgranted, hdenied⟩ := eq_of_raised hv
    simp only [List.count_cons, beq_iff_eq]
    constructor
    · by_cases hg : v = .granted
      · simp [hg, hgranted hg, ih.1]
      · rw [if_neg hg]
        omega
    · by_cases hd : v' = .denied
      · simp [hd, hdenied hd, ih.2]
      · rw [if_neg hd]
        omega

/-- **A raised vote takes nothing away.** -/
theorem allows_of_raised (h : List.Forall₂ (Relation.ReflTransGen Vote.Raised) votes votes')
    (hallows : rule.Allows allow votes) : rule.Allows allow votes' := by
  obtain ⟨hgranted, hdenied⟩ := count_of_raised h
  rw [allows_iff] at hallows ⊢
  cases rule with
  | affirmative =>
    rcases hallows with hg | ⟨hd, hallow⟩
    · exact .inl (by omega)
    · exact .inr ⟨by omega, hallow⟩
  | consensus =>
    rcases hallows with ⟨hopinion, hle⟩ | ⟨hnone, hallow⟩
    · exact .inl ⟨by omega, by omega⟩
    · -- nobody denies any more, so the flag counts only where nobody grants either
      by_cases hg : 0 < votes'.count .granted
      · exact .inl ⟨by omega, by omega⟩
      · exact .inr ⟨by omega, hallow⟩
  | unanimous =>
    obtain ⟨hd, hg | hallow⟩ := hallows
    · exact ⟨by omega, .inl (by omega)⟩
    · exact ⟨by omega, .inr hallow⟩

theorem consensus_of_unanimous (h : unanimous.Allows allow votes) : consensus.Allows allow votes := by
  rw [allows_iff] at h ⊢
  obtain ⟨hd, hallow⟩ := h
  by_cases hg : 0 < votes.count .granted
  · exact .inl ⟨by omega, by omega⟩
  · exact .inr ⟨by omega, hallow.resolve_left hg⟩

theorem affirmative_of_consensus (h : consensus.Allows allow votes) : affirmative.Allows allow votes := by
  rw [allows_iff] at h ⊢
  rcases h with ⟨hopinion, hle⟩ | ⟨hnone, hallow⟩
  · exact .inl (by omega)
  · exact .inr ⟨by omega, hallow⟩

end Pairs

end DecisionRule

namespace DecisionManager

variable {τ : Type}

theorem decide_eq_ok_iff_allows (m : DecisionManager τ) (user : Option User) (object : τ) (attributes : List Attribute) :
    m.decide user object attributes = .ok () ↔ m.rule.Allows m.allowIfAllAbstain (m.votes user object attributes) := by
  rw [← DecisionRule.count_eq_true_iff]
  unfold decide allows
  split
  · rename_i h
    exact ⟨fun _ => h, fun _ => rfl⟩
  · rename_i h
    exact ⟨fun hok => (by cases hok), fun hcount => absurd hcount h⟩

/-- **A manager decides what its rule means for the votes of its voters.**  So the voters can be put in any order, a vote that
is raised never turns an allowed access into a refused one, and what is allowed unanimously is allowed by consensus, and
what is allowed by consensus is allowed affirmatively. -/
theorem decide_follows_rule (m : DecisionManager τ) (user : Option User) (object : τ) (attributes : List Attribute) :
    (m.decide user object attributes = .ok () ↔
      m.rule.Allows m.allowIfAllAbstain (m.votes user object attributes)) ∧
    (∀ voters, m.voters.Perm voters →
      decide { m with voters } user object attributes = m.decide user object attributes) ∧
    (∀ voters, List.Forall₂ (Relation.ReflTransGen Vote.Raised) (m.votes user object attributes)
        (votes { m with voters } user object attributes) →
      m.decide user object attributes = .ok () → decide { m with voters } user object attributes = .ok ()) ∧
    (decide { m with rule := .unanimous } user object attributes = .ok () →
      decide { m with rule := .consensus } user object attributes = .ok ()) ∧
    (decide { m with rule := .consensus } user object attributes = .ok () →
      decide { m with rule := .affirmative } user object attributes = .ok ()) := by
  refine ⟨m.decide_eq_ok_iff_allows user object attributes, ?_, ?_, ?_, ?_⟩
  · intro voters hperm
    have hvotes : (votes { m with voters } user object attributes).Perm (m.votes user object attributes) := hperm.symm.map _
    unfold decide allows
    rw [DecisionRule.count_perm hvotes]
  · intro voters hraised hok
    rw [decide_eq_ok_iff_allows] at hok ⊢
    exact DecisionRule.allows_of_raised hraised hok
  · intro hok
    rw [decide_eq_ok_iff_allows] at hok ⊢
    exact DecisionRule.consensus_of_unanimous hok
  · intro hok
    rw [decide_eq_ok_iff_allows] at hok ⊢
    exact DecisionRule.affirmative_of_consensus hok

/-- A tie, decided by consensus. -/
def tied : DecisionManager Unit := ⟨.consensus, [.constant .denied, .constant .granted, .constant .abstain], false⟩

/-- One grant and no denial. -/
def unopposed : DecisionManager Unit := ⟨.unanimous, [.constant .abstain, .constant .granted], false⟩

theorem decide_follows_rule_tied :
    decide { tied with voters := [.constant .abstain, .constant .granted, .constant .denied] } none () [] =
        tied.decide none () [] ∧
      decide { tied with voters := [.constant .abstain, .constant .granted, .constant .granted] } none () [] = .ok () ∧
      decide { unopposed with rule := .affirmative } none () [] = .ok () := by
  obtain ⟨hrule, hperm, hraised, -, -⟩ := decide_follows_rule tied none () []
  obtain ⟨-, -, -, hconsensus, haffirmative⟩ := decide_follows_rule unopposed none () []
  have hallowed : tied.decide none () [] = .ok () := hrule.2 (.inl ⟨⟨.denied, by decide, by decide⟩, by decide⟩)
  refine ⟨hperm _ ?_, hraised _ ?_ hallowed, haffirmative (hconsensus rfl)⟩
  · exact (List.reverse_perm tied.voters).symm
  · exact .cons (.single .denied) (.cons .refl (.cons (.single .abstain) .nil))

end DecisionManager
end BrokerGuard
