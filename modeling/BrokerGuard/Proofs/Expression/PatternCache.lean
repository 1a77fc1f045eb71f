import BrokerGuard.Access.RequestKey
import BrokerGuard.Message.Matcher
import BrokerGuard.Proofs.Expression.Evaluation
import Mathlib.Data.Set.Card
/-!
# The pattern cache — that nobody sees it

A cache that came about by calls is nothing but the row of the patterns it holds, each once (`ofPatterns`): the compiled
form of a pattern is determined by its text.  So a call answers as the built-in root does and adds at most the one pattern
that it looks for (`call_ofPatterns`).  From this follows what is said of a row of calls (`cache_is_invisible`), and that an
expression has the same value with a cache as without (`evaluateM_cached`).
-/
namespace BrokerGuard
namespace PatternCache

/-- A call in its context. -/
structure Query where
  name : String
  args : List String
  ctx : EvaluationContext

/-- Answers calls one after the other. -/
def answerAll (cache : PatternCache) : List Query → List (Option Bool) × PatternCache
  | [] => ([], cache)
  | q :: qs =>
    let (answer, cache) := cache.call q.name q.args q.ctx
    let (answers, cache) := cache.answerAll qs
    (answer :: answers, cache)

/-- What a cache that was never used answers. -/
def Query.fresh (q : Query) : Option Bool := (PatternCache.call {} q.name q.args q.ctx).1

/-- The call looks for a pattern: it is given one, and its context has the path to match. -/
def Query.LooksFor (q : Query) (pattern : String) : Prop :=
  q.args.head? = some pattern ∧
    ((q.name = "destinationMatches" ∧ q.ctx.destination.isSome) ∨ (q.name = "requestMatches" ∧ q.ctx.requestPath.isSome))

/-- The pattern that the call looks for. -/
def Query.pattern? (q : Query) : Option String :=
  if (q.name = "destinationMatches" ∧ q.ctx.destination.isSome) ∨ (q.name = "requestMatches" ∧ q.ctx.requestPath.isSome)
  then q.args.head? else none

theorem Query.pattern?_eq_some_iff {q : Query} {pattern : String} : q.pattern? = some pattern ↔ q.LooksFor pattern := by
  unfold pattern? LooksFor
  split
  · rename_i h
    exact (and_iff_left h).symm
  · rename_i h
    exact ⟨fun hnone => (by cases hnone), fun hand => absurd hand.2 h⟩

/-! ## The patterns in a cache -/

/-- The cache that holds these patterns. -/
def ofPatterns (patterns : List String) : PatternCache := ⟨patterns.map fun p => (p, .ofSource p)⟩

theorem lookup_ofPatterns (pattern : String) : ∀ patterns : List String,
    (ofPatterns patterns).entries.lookup pattern = if pattern ∈ patterns then some (.ofSource pattern) else none
  | [] => rfl
  | p :: patterns => by
    have ih := lookup_ofPatterns pattern patterns
    unfold ofPatterns at ih ⊢
    rw [List.map_cons]
    by_cases hp : pattern = p
    · rw [hp, List.lookup_cons_self, if_pos List.mem_cons_self]
    · rw [List.lookup_cons, beq_false_of_ne hp, ih]
      simp only [List.mem_cons, hp, false_or]

theorem pathMatches_ofPatterns (patterns : List String) (pattern path : String) :
    (ofPatterns patterns).pathMatches pattern path =
      ((Pattern.Ant.ofSource pattern).accepts path, ofPatterns (patterns.insert pattern)) := by
  unfold pathMatches
  rw [lookup_ofPatterns]
  by_cases hp : pattern ∈ patterns
  · rw [if_pos hp, List.insert_of_mem hp]
  · rw [if_neg hp, List.insert_of_not_mem hp]
    rfl

/-- The patterns of a cache after a call that looks for a pattern, or for none. -/
def keep (patterns : List String) (pattern : Option String) : List String := pattern.elim patterns patterns.insert

theorem mem_keep_iff {patterns : List String} {pattern : Option String} {p : String} :
    p ∈ keep patterns pattern ↔ p ∈ patterns ∨ pattern = some p := by
  cases pattern with
  | none => exact ⟨.inl, fun h => h.resolve_right (by simp)⟩
  | some pattern =>
    rw [show keep patterns (some pattern) = patterns.insert pattern from rfl, List.mem_insert_iff, or_comm,
      Option.some.injEq, eq_comm]

theorem nodup_keep {patterns : List String} (h : patterns.Nodup) (pattern : Option String) :
    (keep patterns pattern).Nodup := by
  cases pattern with
  | none => exact h
  | some pattern => exact h.insert

theorem patternCall_ofPatterns (patterns : List String) (pattern path : Option String) :
    (ofPatterns patterns).patternCall pattern path =
      (pattern.map (EvaluationContext.pathMatches · path),
        ofPatterns (keep patterns (if path.isSome then pattern else none))) := by
  cases pattern with
  | none => cases path <;> rfl
  | some pattern =>
    cases path with
    | none => rfl
    | some path =>
      unfold patternCall
      dsimp only
      rw [pathMatches_ofPatterns]
      rfl

/-- **A call answers what the built-in root answers**, and keeps the pattern that it looks for. -/
theorem call_ofPatterns (patterns : List String) (q : Query) :
    (ofPatterns patterns).call q.name q.args q.ctx =
      (Root.builtin q.name q.args q.ctx, ofPatterns (keep patterns q.pattern?)) := by
  obtain ⟨name, args, ctx⟩ := q
  unfold call
  by_cases hdestination : name = "destinationMatches"
  · subst hdestination
    rw [if_pos rfl, patternCall_ofPatterns]
    simp [Query.pattern?, Root.builtin]
  · rw [if_neg hdestination]
    by_cases hrequest : name = "requestMatches"
    · subst hrequest
      rw [if_pos rfl, patternCall_ofPatterns]
      simp [Query.pattern?, Root.builtin]
    · rw [if_neg hrequest]
      simp [Query.pattern?, hdestination, hrequest, keep]

theorem fresh_eq (q : Query) : q.fresh = Root.builtin q.name q.args q.ctx :=
  congrArg Prod.fst (call_ofPatterns [] q)

/-! ## A row of calls -/

/-- The patterns of a cache after a row of calls. -/
def keepAll (patterns : List String) (qs : List Query) : List String :=
  qs.foldl (fun patterns q => keep patterns q.pattern?) patterns

theorem mem_keepAll_iff {p : String} : ∀ {qs : List Query} {patterns : List String},
    p ∈ keepAll patterns qs ↔ p ∈ patterns ∨ ∃ q ∈ qs, q.LooksFor p
  | [], _ => by simp [keepAll]
  | q :: qs, patterns => by
    have ih : p ∈ keepAll (keep patterns q.pattern?) qs ↔ _ := mem_keepAll_iff
    rw [mem_keep_iff, Query.pattern?_eq_some_iff, or_assoc] at ih
    rw [List.exists_mem_cons_iff]
    exact ih

theorem nodup_keepAll : ∀ (qs : List Query) {patterns : List String}, patterns.Nodup → (keepAll patterns qs).Nodup
  | [], _, h => h
  | q :: qs, _, h => nodup_keepAll qs (nodup_keep h q.pattern?)

theorem answerAll_ofPatterns : ∀ (qs : List Query) (patterns : List String),
    (ofPatterns patterns).answerAll qs = (qs.map Query.fresh, ofPatterns (keepAll patterns qs))
  | [], _ => rfl
  | q :: qs, patterns => by
    unfold answerAll
    rw [call_ofPatterns, List.map_cons, fresh_eq]
    dsimp only
    rw [answerAll_ofPatterns qs (keep patterns q.pattern?)]
    rfl

/-- Each pattern is compiled once. -/
theorem size_answerAll (qs : List Query) :
    (PatternCache.answerAll {} qs).2.size = Set.ncard {p | ∃ q ∈ qs, q.LooksFor p} := by
  have hset : {p | ∃ q ∈ qs, q.LooksFor p} = ((keepAll [] qs).toFinset : Set String) := by
    ext p
    simp [mem_keepAll_iff]
  have hcache : (PatternCache.answerAll {} qs).2 = ofPatterns (keepAll [] qs) :=
    congrArg Prod.snd (answerAll_ofPatterns qs [])
  rw [hset, Set.ncard_coe_finset, List.toFinset_card_of_nodup (nodup_keepAll qs List.nodup_nil), hcache, size, ofPatterns,
    List.length_map]

/-- Answers a call through the cache. -/
def ask (ctx : EvaluationContext) (c : FunctionCall) : StateM PatternCache (Option Bool) :=
  fun cache => cache.call c.name c.args ctx

/-- **An expression has the same value with a cache as without.** -/
theorem evaluateM_cached (e : Expression) (ctx : EvaluationContext) (patterns : List String) :
    ∃ patterns', e.evaluateM (ask ctx) (ofPatterns patterns) = (e.evaluate Root.builtin ctx, ofPatterns patterns') := by
  have hask : ∀ (c : FunctionCall) (cache : PatternCache), (∃ patterns, cache = ofPatterns patterns) →
      ∃ cache', ask ctx c cache = (Root.builtin.answer? ctx c, cache') ∧ ∃ patterns, cache' = ofPatterns patterns := by
    rintro c _ ⟨patterns, rfl⟩
    exact ⟨_, call_ofPatterns patterns ⟨c.name, c.args, ctx⟩, _, rfl⟩
  obtain ⟨_, hvalue, patterns', rfl⟩ := Expression.evaluateM_of_answers hask e _ ⟨patterns, rfl⟩
  exact ⟨patterns', hvalue⟩

/-! ## What the pattern functions mean -/

theorem fresh_destinationMatches_iff {pattern : String} {more : List String} {ctx : EvaluationContext} {m : Message}
    (h : m.destination = ctx.destination) :
    Query.fresh ⟨"destinationMatches", pattern :: more, ctx⟩ = some true ↔
      (MessageMatcher.ofPattern pattern).applies m = true := by
  rw [fresh_eq]
  cases hd : ctx.destination <;>
    simp [Root.builtin, EvaluationContext.pathMatches, MessageMatcher.ofPattern, MessageMatcher.applies, h, hd]

theorem fresh_requestMatches_iff {pattern : String} {more : List String} {ctx : EvaluationContext} (method : String) :
    Query.fresh ⟨"requestMatches", pattern :: more, ctx⟩ = some true ↔
      ∃ path, ctx.requestPath = some path ∧ (RequestKey.ant pattern none).applies ⟨method, path⟩ = true := by
  rw [fresh_eq]
  cases h : ctx.requestPath <;> simp [Root.builtin, EvaluationContext.pathMatches, RequestKey.ant, RequestKey.applies, h]

/-- **Nobody sees the cache.**  In whatever order calls come, each is answered as a cache answers it that was never used; so
`destinationMatches` says what a matcher for the pattern says of a message to the destination, and `requestMatches` what a
key for the pattern says of the path.  All that the calls leave behind is the number of patterns that they looked for. -/
theorem cache_is_invisible (qs : List Query) :
    (PatternCache.answerAll {} qs).1 = qs.map Query.fresh ∧
    (∀ (pattern : String) (more : List String) (ctx : EvaluationContext),
      (∀ m : Message, m.destination = ctx.destination →
        (Query.fresh ⟨"destinationMatches", pattern :: more, ctx⟩ = some true ↔
          (MessageMatcher.ofPattern pattern).applies m = true)) ∧
      (∀ method, Query.fresh ⟨"requestMatches", pattern :: more, ctx⟩ = some true ↔
        ∃ path, ctx.requestPath = some path ∧ (RequestKey.ant pattern none).applies ⟨method, path⟩ = true)) ∧
    (PatternCache.answerAll {} qs).2.size = Set.ncard {p | ∃ q ∈ qs, q.LooksFor p} := by
  refine ⟨congrArg Prod.fst (answerAll_ofPatterns qs []), fun pattern more ctx => ?_, size_answerAll qs⟩
  exact ⟨fun m hm => fresh_destinationMatches_iff hm, fresh_requestMatches_iff⟩

/-- A message to a topic. -/
def topicContext : EvaluationContext := { messageType := some "MESSAGE", destination := some "/topic/a" }

/-- A request for a topic. -/
def pageContext : EvaluationContext := { requestPath := some "/topic/x", requestMethod := some "GET" }

/-- Calls of which two share a pattern, one has no path, one has no pattern and one is of no pattern function. -/
def mixedCalls : List Query :=
  [⟨"destinationMatches", ["/topic/**"], topicContext⟩, ⟨"requestMatches", ["/topic/**", "/queue/**"], pageContext⟩,
    ⟨"destinationMatches", ["/queue/**"], pageContext⟩, ⟨"requestMatches", [], pageContext⟩,
    ⟨"isMessageType", ["/app/**"], topicContext⟩, ⟨"requestMatches", ["/app/**"], pageContext⟩]

theorem cache_is_invisible_mixed :
    (PatternCache.answerAll {} mixedCalls).1 = [some true, some true, some false, none, some false, some false] ∧
    (({ type := .subscribe, destination := some "/topic/a" } : Message).destination = topicContext.destination ∧
      (MessageMatcher.ofPattern "/topic/**").applies { type := .subscribe, destination := some "/topic/a" } = true) ∧
    Set.ncard {p | ∃ q ∈ mixedCalls, q.LooksFor p} = 2 := by
  obtain ⟨hanswers, hmeaning, hsize⟩ := cache_is_invisible mixedCalls
  refine ⟨hanswers.trans (by decide +kernel), ⟨rfl, ?_⟩, hsize.symm.trans (by decide +kernel)⟩
  exact ((hmeaning "/topic/**" [] topicContext).1 _ rfl).1 (by decide +kernel)

end PatternCache
end BrokerGuard
