import BrokerGuard.Proofs.Access.Lookup
import BrokerGuard.Proofs.Message.Rules
/-!
# Registrations — what the steps of a declaration bind

Read as a history, the steps of a declaration bind one matcher after the other to the text of a rule (`registrations`).  A
change of the separator splits the history: what comes before it is bound as if it were not there.  A change of the parser
concerns all texts, whenever they were bound (`parserOf`).  The registry holds what the history comes to
(`entries_declareAll`, `parser_declareAll`), so its rules, and those of requests, answer by the first key that applies, with
what the key was bound to last (`rules_follow_registrations`).

Which rule governs a message is said of the steps alone (`Governs`).  A registry made by the steps answers with the same
rule (`governs_declareAll_iff`), and rules are built from it exactly when every text that counts is read
(`build_declareAll_ok_iff`).
-/
namespace BrokerGuard

open Bindings (Latest bindAll)

namespace RuleRegistry

/-- The matchers that a selector stands for.  The patterns of destinations are told apart by case. -/
def matchersOf (separator : Char) : MessageSelector → List MessageMatcher
  | .any => [.any]
  | .nullDestination => [.nullDestination]
  | .types types => [.types types]
  | .destinations type patterns =>
    patterns.map fun pattern => .destination { source := pattern, separator := separator, caseSensitive := true } type
  | .matchers matchers => matchers

/-- What the steps bind, matcher by matcher, where patterns are read with the separator until it is changed. -/
def registrations (separator : Char) : List RuleStep → List (MessageMatcher × String)
  | [] => []
  | .separator changed :: steps => registrations changed steps
  | .parser _ :: steps => registrations separator steps
  | .rule selector rule :: steps =>
    (matchersOf separator selector).map (·, rule.expression) ++ registrations separator steps

/-- The parser that a step declares. -/
def declaredParser? : RuleStep → Option ExpressionParser
  | .parser parser => some parser
  | .separator _ | .rule _ _ => none

/-- The parser that was declared last, and the built-in one if none was. -/
def parserOf (steps : List RuleStep) : ExpressionParser := (steps.filterMap declaredParser?).getLastD .standard

/-- The first declared matcher that applies to the message was declared last with a text that is read as the expression. -/
def Governs (steps : List RuleStep) (m : Message) (p : ParsedExpression) : Prop :=
  ∃ matcher text, ((registrations '/' steps).map Prod.fst).eraseDups.find? (·.applies m) = some matcher ∧
    Latest (registrations '/' steps) matcher text ∧ parserOf steps text = .ok p

theorem registrations_append_separator (changed : Char) (after : List RuleStep) :
    ∀ (separator : Char) (before : List RuleStep),
      registrations separator (before ++ .separator changed :: after) =
        registrations separator before ++ registrations changed after
  | _, [] => rfl
  | _, .separator separator :: before => registrations_append_separator changed after separator before
  | separator, .parser _ :: before => registrations_append_separator changed after separator before
  | separator, .rule selector rule :: before => by
    have ih := registrations_append_separator changed after separator before
    rw [List.cons_append, registrations, registrations, ih, List.append_assoc]

/-- **A selector binds the matchers that it stands for.** -/
theorem select_eq (r : RuleRegistry) : ∀ selector, r.select selector = matchersOf r.separator selector
  | .any | .nullDestination | .types _ | .destinations _ _ | .matchers _ => rfl

theorem mappings_bind (r : RuleRegistry) (matchers : List MessageMatcher) (text : String) :
    (r.bind matchers text).mappings =
      (matchers.map (·, text)).foldl (fun map b => map.insert b.1 [.raw b.2]) r.mappings := by
  unfold bind
  rw [List.foldl_map]

theorem mappings_declareAll : ∀ (steps : List RuleStep) (r : RuleRegistry),
    (r.declareAll steps).mappings =
      (registrations r.separator steps).foldl (fun map b => map.insert b.1 [.raw b.2]) r.mappings
  | [], _ => rfl
  | .separator separator :: steps, r => mappings_declareAll steps { r with separator := separator }
  | .parser parser :: steps, r => mappings_declareAll steps { r with parser := parser }
  | .rule selector rule :: steps, r => by
    have ih := mappings_declareAll steps (r.bind (r.select selector) rule.expression)
    rw [mappings_bind, select_eq] at ih
    rw [registrations, List.foldl_append]
    exact ih

/-- **A registry holds what the history of its steps comes to.** -/
theorem entries_declareAll (steps : List RuleStep) :
    (({} : RuleRegistry).declareAll steps).mappings.entries =
      (bindAll (registrations '/' steps)).map (Prod.map id fun text => [.raw text]) := by
  rw [mappings_declareAll]
  exact RuleMap.entries_foldl_insert (fun text => [.raw text]) _

theorem keys_declareAll (steps : List RuleStep) :
    (({} : RuleRegistry).declareAll steps).mappings.keys = ((registrations '/' steps).map Prod.fst).eraseDups := by
  have hkeys : (({} : RuleRegistry).declareAll steps).mappings.keys =
      (bindAll (registrations '/' steps)).map Prod.fst := by
    unfold RuleMap.keys
    rw [entries_declareAll, List.map_map]
    rfl
  exact hkeys.trans (Bindings.keys_bindAll _)

theorem parser_declareAll_eq_getLastD : ∀ (steps : List RuleStep) (r : RuleRegistry),
    (r.declareAll steps).parser = (steps.filterMap declaredParser?).getLastD r.parser
  | [], _ => rfl
  | .separator separator :: steps, r => parser_declareAll_eq_getLastD steps { r with separator := separator }
  | .rule selector rule :: steps, r => parser_declareAll_eq_getLastD steps (r.bind (r.select selector) rule.expression)
  | .parser parser :: steps, r => by
    have ih := parser_declareAll_eq_getLastD steps { r with parser := parser }
    exact ih.trans (List.getLastD_cons ..).symm

theorem parser_declareAll (steps : List RuleStep) : (({} : RuleRegistry).declareAll steps).parser = parserOf steps :=
  parser_declareAll_eq_getLastD steps {}

variable {steps : List RuleStep}

theorem latest_of_mem_entries {matcher : MessageMatcher} {attributes : List Attribute}
    (h : (matcher, attributes) ∈ (({} : RuleRegistry).declareAll steps).mappings.entries) :
    ∃ text, attributes = [.raw text] ∧ Latest (registrations '/' steps) matcher text := by
  rw [entries_declareAll] at h
  obtain ⟨⟨k, text⟩, hbound, heq⟩ := List.mem_map.1 h
  obtain ⟨rfl, rfl⟩ := Prod.mk.inj heq
  exact ⟨text, rfl, Bindings.mem_bindAll_iff.1 hbound⟩

theorem mem_entries_of_latest {matcher : MessageMatcher} {text : String} (h : Latest (registrations '/' steps) matcher text) :
    (matcher, [.raw text]) ∈ (({} : RuleRegistry).declareAll steps).mappings.entries := by
  rw [entries_declareAll]
  exact List.mem_map.2 ⟨(matcher, text), Bindings.mem_bindAll_iff.2 h, rfl⟩

/-- **The registry has, for a message, the rule that governs it.** -/
theorem governs_declareAll_iff {m : Message} {p : ParsedExpression} :
    Governs steps m p ↔ (({} : RuleRegistry).declareAll steps).Answers m p := by
  have hnodup := (Declared.empty.declareAll steps).nodup
  unfold Governs Answers
  rw [← keys_declareAll, ← parser_declareAll]
  constructor
  · rintro ⟨matcher, text, hfind, hlatest, hp⟩
    exact ⟨matcher, text, RuleMap.find?_of_find?_keys hnodup (mem_entries_of_latest hlatest) hfind, hp⟩
  · rintro ⟨matcher, text, hfind, hp⟩
    obtain ⟨text', htext, hlatest⟩ := latest_of_mem_entries (List.mem_of_find?_eq_some hfind)
    obtain rfl : text = text' := by simpa using htext
    refine ⟨matcher, text, ?_, hlatest, hp⟩
    rw [RuleMap.keys, List.find?_map]
    exact congrArg (Option.map Prod.fst) hfind

theorem Governs.unique {m : Message} {p p' : ParsedExpression} (h : Governs steps m p) (h' : Governs steps m p') : p = p' :=
  (governs_declareAll_iff.1 h).unique (governs_declareAll_iff.1 h')

theorem convert_text_ok {parser : ExpressionParser} {matcher : MessageMatcher} {text : String}
    {converted : MessageMatcher × List Attribute}
    (h : RuleMap.convert MessageMatcher.display parser (matcher, [.raw text]) = .ok converted) :
    ∃ p, parser text = .ok p := by
  cases hp : parser text with
  | ok p => exact ⟨p, rfl⟩
  | error cause => rw [RuleMap.convert_raw_of_error hp] at h; cases h

/-- **Rules can be built exactly when every text that counts is read.** -/
theorem build_declareAll_ok_iff : (∃ rules, (({} : RuleRegistry).declareAll steps).build = .ok rules) ↔
    ∀ matcher text, Latest (registrations '/' steps) matcher text → ∃ p, parserOf steps text = .ok p := by
  rw [← parser_declareAll]
  refine (RuleMap.parse_ok_iff (Declared.empty.declareAll steps).nodup).trans ⟨fun h matcher text hlatest => ?_, ?_⟩
  · obtain ⟨_, hconvert⟩ := h _ (mem_entries_of_latest hlatest)
    exact convert_text_ok hconvert
  · rintro h ⟨matcher, attributes⟩ hentry
    obtain ⟨text, rfl, hlatest⟩ := latest_of_mem_entries hentry
    obtain ⟨p, hp⟩ := h matcher text hlatest
    exact ⟨_, RuleMap.convert_raw_of_ok hp _ matcher⟩

end RuleRegistry

/-! ## Equal matchers -/

/-- The texts, separators and case modes of the patterns agree. -/
def Pattern.Ant.sameAs (p p' : Pattern.Ant) : Bool :=
  p.source == p'.source && p.separator == p'.separator && p.caseSensitive == p'.caseSensitive

theorem Pattern.Ant.sameAs_iff {p p' : Pattern.Ant} : p.sameAs p' = true ↔ p = p' := by
  obtain ⟨source, separator, caseSensitive⟩ := p
  obtain ⟨source', separator', caseSensitive'⟩ := p'
  simp [sameAs, and_assoc]

/-- The matchers are of one kind, and their types and patterns agree. -/
def MessageMatcher.sameAs : MessageMatcher → MessageMatcher → Bool
  | any, any => true
  | nullDestination, nullDestination => true
  | types ts, types ts' => ts == ts'
  | destination pattern type, destination pattern' type' => pattern.sameAs pattern' && type == type'
  | _, _ => false

theorem MessageMatcher.sameAs_iff {k k' : MessageMatcher} : k.sameAs k' = true ↔ k = k' := by
  cases k <;> cases k' <;> simp [sameAs, Pattern.Ant.sameAs_iff]

namespace RuleRegistry

/-- **Rules answer for the history of their registrations.**  The keys are pairwise different and in the order in which
they were first registered, each carries what it was registered with last, and an object is answered by the first key that
applies to it: for all sequences of declarations that can be built, and for all maps of request keys, before and after they
are parsed.  Keys that compare equal are one key, and apply to the same objects. -/
theorem rules_follow_registrations :
    (∀ (steps : List RuleStep) (rules : MessageRules), (({} : RuleRegistry).declareAll steps).build = .ok rules →
      rules.Follows (registrations '/' steps)
        (fun text attributes => ∃ p, parserOf steps text = .ok p ∧ attributes = [.parsed p])
        MessageMatcher.applies rules.forMessage) ∧
    (∀ (before after : List RuleStep) (separator : Char),
      registrations '/' (before ++ .separator separator :: after) =
        registrations '/' before ++ registrations separator after ∧
      (({} : RuleRegistry).declareAll before).mappings.keys <+:
        (({} : RuleRegistry).declareAll (before ++ .separator separator :: after)).mappings.keys) ∧
    (∀ history : List (RequestKey × List Attribute),
      (RuleMap.ofList history).Follows history Eq RequestKey.applies (RequestRules.forTarget (.ofList history))) ∧
    (∀ (history : List (RequestKey × List Attribute)) (parser : ExpressionParser) (rules : RequestRules),
      (RuleMap.ofList history).parse RequestKey.display (some parser) = .ok rules →
      rules.Follows history (RuleMap.Converts parser) RequestKey.applies rules.forTarget) ∧
    (∀ k k' : MessageMatcher, (k.sameAs k' = true ↔ k = k') ∧
      (k.sameAs k' = true → ∀ m, k.applies m = k'.applies m)) ∧
    (∀ k k' : RequestKey, k.Made → k'.Made → (k.sameAs k' = true ↔ k = k') ∧
      (k.sameAs k' = true → ∀ t, k.applies t = k'.applies t)) := by
  refine ⟨fun steps rules hbuild => ?_, fun before after separator => ?_, fun history => RuleMap.follows_ofList history _,
    fun history parser rules hparse => ?_, fun k k' => ?_, fun k k' hk hk' => ?_⟩
  · have hfollows := RuleMap.follows_of_parse (entries_declareAll steps) hbuild MessageMatcher.applies
    refine hfollows.imp fun text attributes hreads => ?_
    obtain ⟨p, hbound | ⟨text', hbound, hp⟩, hattributes⟩ := hreads
    · simp at hbound
    · obtain rfl : text = text' := by simpa using hbound
      rw [parser_declareAll] at hp
      exact ⟨p, hp, hattributes⟩
  · have hsplit := registrations_append_separator separator after '/' before
    refine ⟨hsplit, ?_⟩
    rw [keys_declareAll, keys_declareAll, hsplit, List.map_append, List.eraseDups_append]
    exact List.prefix_append _ _
  · have hentries : (RuleMap.ofList history).entries = (bindAll history).map (Prod.map id id) := by
      rw [RuleMap.entries_ofList, Prod.map_id, List.map_id]
    exact RuleMap.follows_of_parse hentries hparse _
  · refine ⟨MessageMatcher.sameAs_iff, fun h m => ?_⟩
    rw [MessageMatcher.sameAs_iff.1 h]
  · refine ⟨RequestKey.sameAs_iff hk hk', fun h t => ?_⟩
    rw [(RequestKey.sameAs_iff hk hk').1 h]

/-- Declares one matcher again, and changes the separator in between. -/
def redeclared : List RuleStep :=
  [.rule (.destinations none ["/app/**", "/topic/*"]) (.hasRole "USER"), .separator '.',
    .rule (.destinations (some .subscribe) ["stocks.*", "/app/**"]) .permitAll,
    .rule (.matchers [.ofPattern "/app/**", .any]) .denyAll]

/-- Binds the key of what is under a path twice, and another key in between. -/
def rebound : List (RequestKey × List Attribute) :=
  [(.ant "/users/**" (some "GET"), [.raw "permitAll()"]), (.ant "/users/**" none, [.raw "isAuthenticated()"]),
    (.ant "/users/**" (some "GET"), [.raw "hasRole('ADMIN')"])]

theorem rules_follow_registrations_redeclared :
    (∃ rules : MessageRules, (({} : RuleRegistry).declareAll redeclared).build = .ok rules ∧
      rules.Follows (registrations '/' redeclared)
        (fun text attributes => ∃ p, parserOf redeclared text = .ok p ∧ attributes = [.parsed p])
        MessageMatcher.applies rules.forMessage) ∧
    (∃ rules : RequestRules, (RuleMap.ofList rebound).parse RequestKey.display (some .standard) = .ok rules ∧
      rules.Follows rebound (RuleMap.Converts .standard) RequestKey.applies rules.forTarget) ∧
    ((RequestKey.ant "/users/**" none).sameAs (.ant "/users/**" (some "GET")) = true ↔
      RequestKey.ant "/users/**" none = .ant "/users/**" (some "GET")) := by
  refine ⟨⟨_, rfl, ?_⟩, ⟨_, rfl, ?_⟩, ?_⟩
  · exact rules_follow_registrations.1 redeclared _ rfl
  · exact rules_follow_registrations.2.2.2.1 rebound _ _ rfl
  · exact (rules_follow_registrations.2.2.2.2.2 _ _ (.ant "/users/**" none) (.ant "/users/**" (some "GET"))).1

end RuleRegistry
end BrokerGuard
