import BrokerGuard.Proofs.Expression.Quotation
import BrokerGuard.Proofs.Message.Rules
/-!
# Rules about roles and authorities — when a rule means what it says

Such a rule puts its texts between single quotes as they are, and the expression is read later.  It calls the function it
names with exactly its texts, and grants exactly whom it should, if and only if all the texts are plain
(`RuleRegistry.grants_iff_plain`).  A text with a single quote or a backslash makes another rule of it, or none.
-/
namespace BrokerGuard

open Expression (Plain quotedArguments moreQuoted)

/-- A rule about roles or authorities: the function that it names, its texts, and what it demands of a user. -/
inductive AccessRule.Calls : AccessRule → String → List String → (User → Bool) → Prop
  | hasRole (role : String) : Calls (.hasRole role) "hasRole" [role] (·.hasRole role)
  | hasAnyRole (roles : List String) : Calls (.hasAnyRole roles) "hasAnyRole" roles (·.hasAnyRole roles)
  | hasAuthority (authority : String) :
      Calls (.hasAuthority authority) "hasAuthority" [authority] (·.hasAuthority authority)
  | hasAnyAuthority (authorities : List String) :
      Calls (.hasAnyAuthority authorities) "hasAnyAuthority" authorities (·.hasAnyAuthority authorities)

/-! ## The text of a rule -/

theorem toList_quoteAll : ∀ values : List String, (quoteAll values).toList = quotedArguments values
  | [] => rfl
  | [a] => by
    simp only [quoteAll, List.map_cons, List.map_nil, String.intercalate_singleton, String.toList_append,
      quotedArguments, moreQuoted, List.flatMap_nil, String.reduceToList, List.cons_append, List.nil_append]
  | a :: b :: values => by
    have ih := toList_quoteAll (b :: values)
    have hsplit : quoteAll (a :: b :: values) = ("'" ++ a ++ "'") ++ "," ++ quoteAll (b :: values) := by
      simp only [quoteAll, List.map_cons, String.intercalate_cons_cons]
    rw [hsplit]
    simp only [String.toList_append, ih, quotedArguments, moreQuoted, List.flatMap_cons, String.reduceToList,
      List.cons_append, List.nil_append, List.append_assoc]

namespace AccessRule.Calls

variable {rule : AccessRule} {name : String} {args : List String} {test : User → Bool}

theorem toList_expression (h : rule.Calls name args test) :
    rule.expression.toList = name.toList ++ '(' :: (quotedArguments args ++ [')']) := by
  unfold AccessRule.expression
  cases h with
  | hasRole | hasAuthority =>
    simp only [String.toList_append, String.reduceToList, quotedArguments, moreQuoted,
      List.flatMap_nil, List.cons_append, List.nil_append, List.append_assoc]
  | hasAnyRole | hasAnyAuthority =>
    simp only [String.toList_append, String.reduceToList, toList_quoteAll, List.cons_append,
      List.nil_append]

theorem isIdentifier (h : rule.Calls name args test) : Expression.IsIdentifier name.toList := by
  cases h <;> exact ⟨⟨'h', _, rfl, by decide, List.all_eq_true.1 (by decide)⟩, by decide⟩

/-- **The text of the rule is read as the call that the rule names exactly when all its texts are plain.** -/
theorem standard_iff (h : rule.Calls name args test) :
    (∃ p, ExpressionParser.standard rule.expression = .ok p ∧ p.expression = .call name args) ↔
      ∀ a ∈ args, Plain a := by
  rw [← Expression.ofSource_quotedCall_iff h.isIdentifier h.toList_expression]
  unfold ExpressionParser.standard
  constructor
  · rintro ⟨p, hp, hcall⟩
    split at hp
    · rename_i e he
      cases hp
      rw [he, ← hcall]
    · cases hp
  · intro hsource
    rw [hsource]
    exact ⟨_, rfl, rfl⟩

theorem evaluate_iff (h : rule.Calls name args test) (m : Message) (user : Option User) :
    (Expression.call name args).evaluate Root.builtin (m.context user) = .ok true ↔
      ∃ u, user = some u ∧ test u = true := by
  have hvalue : (Expression.call name args).evaluate Root.builtin (m.context user) =
      .ok ((m.context user).userSatisfies test) := by
    cases h <;> rfl
  rw [hvalue, Except.ok.injEq]
  cases user with
  | none => exact ⟨fun hfalse => absurd hfalse Bool.false_ne_true, fun ⟨_, heq, _⟩ => nomatch heq⟩
  | some u => exact ⟨fun htest => ⟨u, rfl, htest⟩, fun ⟨_, heq, htest⟩ => Option.some.inj heq ▸ htest⟩

end AccessRule.Calls

namespace RuleRegistry

theorem mem_bind_self {k : MessageMatcher} {text : String} :
    ∀ {matchers : List MessageMatcher} {r : RuleRegistry}, k ∈ matchers ∨ (k, [.raw text]) ∈ r.mappings.entries →
      (k, [.raw text]) ∈ (r.bind matchers text).mappings.entries
  | [], _, h => h.resolve_left List.not_mem_nil
  | matcher :: matchers, r, h => by
    refine mem_bind_self (r := { r with mappings := r.mappings.insert matcher [.raw text] }) ?_
    by_cases hk : k = matcher
    · rw [hk]
      exact .inr (RuleMap.mem_insertInto_self matcher [.raw text] _)
    · rcases h with h | h
      · exact .inl ((List.mem_cons.1 h).resolve_left hk)
      · exact .inr (RuleMap.mem_insertInto_of_ne hk h)

theorem mem_bind {text : String} {entry : MessageMatcher × List Attribute} :
    ∀ {matchers : List MessageMatcher} {r : RuleRegistry}, entry ∈ (r.bind matchers text).mappings.entries →
      entry.2 = [.raw text] ∨ entry ∈ r.mappings.entries
  | [], _, h => .inr h
  | matcher :: matchers, r, h => by
    rcases mem_bind (r := { r with mappings := r.mappings.insert matcher [.raw text] }) h with h | h
    · exact .inl h
    · rcases RuleMap.mem_insertInto h with rfl | h
      · exact .inl rfl
      · exact .inr h

/-- The rule of a matcher that is registered with a text: it is read when the registry is built. -/
theorem get?_of_build {r : RuleRegistry} (h : r.Declared) {rules : MessageRules} (hbuild : r.build = .ok rules)
    {k : MessageMatcher} {text : String} (hk : (k, [.raw text]) ∈ r.mappings.entries) {p : ParsedExpression} :
    rules.get? k = some [.parsed p] ↔ r.parser text = .ok p := by
  have hkey : (r.mappings.entries.map Prod.fst).find? (· == k) = some k :=
    RuleMap.find?_beq_self (List.mem_map.2 ⟨_, hk, rfl⟩)
  unfold RuleMap.get?
  rw [RuleMap.findFirst_of_parse h.nodup hbuild, RuleMap.find?_of_find?_keys h.nodup hk hkey, Option.bind_some]
  cases hp : r.parser text with
  | error e => rw [RuleMap.convert_raw_of_error hp]; exact ⟨(nomatch ·), (nomatch ·)⟩
  | ok p' =>
    rw [RuleMap.convert_raw_of_ok hp]
    simp only [Except.toOption, Option.map_some, Option.some.injEq, List.cons.injEq, Attribute.parsed.injEq, and_true,
      Except.ok.injEq]

/-- A registry that was built is built again with a rule for more matchers, if the text of the rule is read. -/
theorem build_bind {r : RuleRegistry} (h : r.Declared) (hbuild : ∃ rules, r.build = .ok rules) {text : String}
    {p : ParsedExpression} (hp : r.parser text = .ok p) (matchers : List MessageMatcher) :
    ∃ rules, (r.bind matchers text).build = .ok rules := by
  refine (RuleMap.parse_ok_iff (h.bind matchers text).nodup).2 fun entry hentry => ?_
  rcases mem_bind hentry with htext | hold
  · obtain ⟨matcher, attributes⟩ := entry
    obtain rfl : attributes = [.raw text] := htext
    exact ⟨_, RuleMap.convert_raw_of_ok hp _ matcher⟩
  · exact (RuleMap.parse_ok_iff h.nodup).1 hbuild entry hold

/-- The built rules have, for the matcher, the call with exactly these arguments, and grant what this matcher is the first
to apply to exactly to the users who pass the test. -/
def Grants (r : RuleRegistry) (k : MessageMatcher) (name : String) (args : List String) (test : User → Bool) : Prop :=
  ∃ rules p, r.build = .ok rules ∧ rules.get? k = some [.parsed p] ∧ p.expression = .call name args ∧
    ∀ m, r.mappings.keys.find? (·.applies m) = some k → ∀ allow user,
      ((ChannelSecurity.byExpression rules Root.builtin allow).check user m = .ok () ↔
        ∃ u, user = some u ∧ test u = true)

/-- **A rule about roles or authorities means what it says exactly when all its texts are plain**: whatever was declared
before it, as long as that can be built, and for every matcher that it is declared for. -/
theorem grants_iff_plain {rule : AccessRule} {name : String} {args : List String} {test : User → Bool}
    (hcalls : rule.Calls name args test) {steps : List RuleStep}
    (hparser : (({} : RuleRegistry).declareAll steps).parser = ExpressionParser.standard)
    (hbuild : ∃ rules, (({} : RuleRegistry).declareAll steps).build = .ok rules) {selector : MessageSelector}
    {k : MessageMatcher} (hk : k ∈ (({} : RuleRegistry).declareAll steps).select selector) :
    (({} : RuleRegistry).declareAll (steps ++ [.rule selector rule])).Grants k name args test ↔
      ∀ a ∈ args, Plain a := by
  have hdeclared := Declared.empty.declareAll steps
  have hlast : ({} : RuleRegistry).declareAll (steps ++ [.rule selector rule]) =
      (({} : RuleRegistry).declareAll steps).bind ((({} : RuleRegistry).declareAll steps).select selector)
        rule.expression := by
    unfold declareAll
    rw [List.foldl_append]
    rfl
  -- what was declared before matters by its invariant, its parser and its being built
  rw [hlast]
  generalize ({} : RuleRegistry).declareAll steps = r at *
  have hbound := hdeclared.bind (r.select selector) rule.expression
  have hmem : (k, [.raw rule.expression]) ∈ (r.bind (r.select selector) rule.expression).mappings.entries :=
    mem_bind_self (.inl hk)
  have hread : (r.bind (r.select selector) rule.expression).parser = ExpressionParser.standard := hparser
  rw [← hcalls.standard_iff]
  constructor
  · rintro ⟨rules, p, hrules, hget, hcall, -⟩
    have hp := (get?_of_build hbound hrules hmem).1 hget
    rw [hread] at hp
    exact ⟨p, hp, hcall⟩
  · rintro ⟨p, hp, hcall⟩
    rw [← hread] at hp
    obtain ⟨rules, hrules⟩ := build_bind hdeclared hbuild hp (r.select selector)
    refine ⟨rules, p, hrules, (get?_of_build hbound hrules hmem).2 hp, hcall, fun m hfirst allow user => ?_⟩
    have hanswers : (r.bind (r.select selector) rule.expression).Answers m p :=
      ⟨k, rule.expression, RuleMap.find?_of_find?_keys hbound.nodup hmem hfirst, hp⟩
    have hcheck := ChannelSecurity.check_of_answers hbound hrules hanswers Root.builtin allow user
    rw [← hcalls.evaluate_iff m user, ← hcall]
    refine ⟨fun hok => Classical.byContradiction fun hfalse => ?_, hcheck.1⟩
    rw [hcheck.2 hfalse] at hok
    cases hok

theorem grants_plain_roles :
    (({} : RuleRegistry).declareAll ([.separator '.', .rule (.types [.connect]) .permitAll] ++
        [.rule (.destinations none ["chat.*"]) (.hasAnyRole ["moderator", "chat admin"])])).Grants
      (.destination (.withSeparator "chat.*" '.') none) "hasAnyRole" ["moderator", "chat admin"]
      (·.hasAnyRole ["moderator", "chat admin"]) :=
  (grants_iff_plain (.hasAnyRole _) rfl ⟨_, rfl⟩ List.mem_cons_self).2 (by decide)

/-- A single quote in a role ends the quoted text: the rest of the role makes the rule unreadable, or becomes a part of the
rule, which may then let everybody pass. -/
theorem not_grants_quote :
    ¬ (({} : RuleRegistry).declareAll [.rule .any (.hasRole "O'Brien")]).Grants .any "hasRole" ["O'Brien"]
        (·.hasRole "O'Brien") ∧
    ∃ rules,
      (({} : RuleRegistry).declareAll [.rule .any (.hasRole "A') or permitAll() or hasRole('B")]).build = .ok rules ∧
      (ChannelSecurity.byExpression rules Root.builtin false).check none { type := .message } = .ok () := by
  refine ⟨?_, _, rfl, rfl⟩
  rintro ⟨rules, p, hbuild, -⟩
  have herror : (({} : RuleRegistry).declareAll [.rule .any (.hasRole "O'Brien")]).build =
      .error (.expressionParse "AnyMessage" "hasRole('O'Brien')" (.unterminatedString 16)) := rfl
  rw [herror] at hbuild
  cases hbuild

end RuleRegistry
end BrokerGuard
