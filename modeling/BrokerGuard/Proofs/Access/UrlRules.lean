import BrokerGuard.Proofs.Access.Decision
import BrokerGuard.Proofs.Access.Lookup
/-!
# URL rules — which requests a map of rules permits

What a map of request keys means can be read off the map before it is parsed: the expression of the first key that applies
to a request governs it (`Governs`), and a request is permitted when this expression is true for the user, or when no key
applies (`Permits`).  There is an authorizer for the map exactly when every key carries one expression
(`UrlAuthorizer.ofMap_ok_iff`), and it allows exactly what the map permits (`UrlAuthorizer.decide_eq_ok_iff`).
-/
namespace BrokerGuard
namespace RuleMap

/-- There is one attribute: the expression, or a text that is read as the expression. -/
def Carries (parser : ExpressionParser) (attributes : List Attribute) (p : ParsedExpression) : Prop :=
  attributes = [.parsed p] ∨ ∃ text, attributes = [.raw text] ∧ parser text = .ok p

theorem convert_ok_iff {κ : Type} {display : κ → String} {parser : ExpressionParser}
    {entry converted : κ × List Attribute} :
    convert display parser entry = .ok converted ↔
      ∃ p, Carries parser entry.2 p ∧ converted = (entry.1, [.parsed p]) := by
  constructor
  · intro h
    obtain ⟨p, hcarries, hconverted⟩ := converts_of_convert h
    have hkey := fst_of_convert h
    exact ⟨p, hcarries, by rw [← hkey, ← hconverted]⟩
  · obtain ⟨key, attributes⟩ := entry
    rintro ⟨p, rfl | ⟨text, rfl, hp⟩, rfl⟩
    · rfl
    · exact convert_raw_of_ok hp display key

theorem Carries.unique {parser : ExpressionParser} {attributes : List Attribute} {p p' : ParsedExpression}
    (h : Carries parser attributes p) (h' : Carries parser attributes p') : p = p' := by
  rcases h with rfl | ⟨text, rfl, hp⟩
  · rcases h' with h' | ⟨text', h', -⟩
    · simpa using h'
    · simp at h'
  · rcases h' with h' | ⟨text', h', hp'⟩
    · simp at h'
    · obtain rfl : text = text' := by simpa using h'
      exact Except.ok.inj (hp.symm.trans hp')

/-- The expression of the first key that applies to the request. -/
def Governs (map : RuleMap RequestKey) (t : RequestTarget) (p : ParsedExpression) : Prop :=
  ∃ key attributes, (map.entries.find? fun e => e.1.applies t) = some (key, attributes) ∧ Carries .standard attributes p

theorem Governs.unique {map : RuleMap RequestKey} {t : RequestTarget} {p p' : ParsedExpression} (h : map.Governs t p)
    (h' : map.Governs t p') : p = p' := by
  obtain ⟨key, attributes, hfind, hcarries⟩ := h
  obtain ⟨key', attributes', hfind', hcarries'⟩ := h'
  obtain ⟨rfl, rfl⟩ := Prod.mk.inj (Option.some.inj (hfind.symm.trans hfind'))
  exact hcarries.unique hcarries'

/-- No key applies to the request, or the expression of the first one that does is true for the user. -/
def Permits (map : RuleMap RequestKey) (user : Option User) (t : RequestTarget) : Prop :=
  (∀ key ∈ map.keys, key.applies t = false) ∨
    ∃ p, map.Governs t p ∧ p.expression.evaluate Root.builtin (t.context user) = .ok true

theorem find?_eq_none_iff_keys {map : RuleMap RequestKey} {t : RequestTarget} :
    (map.entries.find? fun e => e.1.applies t) = none ↔ ∀ key ∈ map.keys, key.applies t = false := by
  simp [keys]

end RuleMap

namespace UrlAuthorizer

open RuleMap (Carries)

variable {map : RuleMap RequestKey} {authorizer : UrlAuthorizer}

theorem ofMap_ok_iff (hnodup : map.keys.Nodup) :
    (∃ authorizer, ofMap map = .ok authorizer) ↔ ∀ entry ∈ map.entries, ∃ p, Carries .standard entry.2 p := by
  have hparses : (∃ authorizer, ofMap map = .ok authorizer) ↔
      ∃ rules, map.parse RequestKey.display (some .standard) = .ok rules := by
    unfold ofMap
    cases map.parse RequestKey.display (some .standard) with
    | error e => simp
    | ok rules => simp
  rw [hparses, RuleMap.parse_ok_iff hnodup]
  refine forall₂_congr fun entry _ => ?_
  simp only [RuleMap.convert_ok_iff]
  constructor
  · rintro ⟨_, p, hcarries, -⟩
    exact ⟨p, hcarries⟩
  · rintro ⟨p, hcarries⟩
    exact ⟨_, p, hcarries, rfl⟩

theorem exists_rules_of_ofMap (h : ofMap map = .ok authorizer) :
    ∃ rules, map.parse RequestKey.display (some .standard) = .ok rules ∧
      authorizer = ⟨rules, .affirmative (.expression Root.builtin)⟩ := by
  unfold ofMap at h
  cases hparse : map.parse RequestKey.display (some .standard) with
  | error e => rw [hparse] at h; cases h
  | ok rules => rw [hparse] at h; exact ⟨rules, rfl, (Except.ok.inj h).symm⟩

/-- The parsed rules answer, for a request, the expression that governs it. -/
theorem forTarget_eq_some_iff {rules : RequestRules} (hnodup : map.keys.Nodup)
    (hparse : map.parse RequestKey.display (some .standard) = .ok rules) {t : RequestTarget}
    {attributes : List Attribute} :
    RequestRules.forTarget rules t = some attributes ↔ ∃ p, map.Governs t p ∧ attributes = [.parsed p] := by
  have hfirst : RequestRules.forTarget rules t = (map.entries.find? fun e => e.1.applies t).bind fun e =>
      (RuleMap.convert RequestKey.display .standard e).toOption.map Prod.snd :=
    RuleMap.findFirst_of_parse hnodup hparse _
  have hconverts := (RuleMap.parse_ok_iff hnodup).1 ⟨rules, hparse⟩
  rw [hfirst]
  constructor
  · intro h
    obtain ⟨⟨key, bound⟩, hfind, hanswer⟩ := Option.bind_eq_some_iff.1 h
    obtain ⟨converted, hconvert⟩ := hconverts _ (List.mem_of_find?_eq_some hfind)
    obtain ⟨p, hcarries, rfl⟩ := RuleMap.convert_ok_iff.1 hconvert
    rw [hconvert] at hanswer
    exact ⟨p, ⟨key, bound, hfind, hcarries⟩, (Option.some.inj hanswer).symm⟩
  · rintro ⟨p, ⟨key, bound, hfind, hcarries⟩, rfl⟩
    have hconvert : RuleMap.convert RequestKey.display .standard (key, bound) = .ok (key, [.parsed p]) :=
      RuleMap.convert_ok_iff.2 ⟨p, hcarries, rfl⟩
    rw [hfind, Option.bind_some, hconvert]
    rfl

theorem forTarget_eq_none_iff {rules : RequestRules} (hnodup : map.keys.Nodup)
    (hparse : map.parse RequestKey.display (some .standard) = .ok rules) {t : RequestTarget} :
    RequestRules.forTarget rules t = none ↔ ∀ key ∈ map.keys, key.applies t = false := by
  have hanswers : RequestRules.forTarget rules t ≠ none ↔ ∃ p, map.Governs t p := by
    rw [Option.ne_none_iff_exists']
    simp only [forTarget_eq_some_iff hnodup hparse]
    exact ⟨fun ⟨_, p, hp, _⟩ => ⟨p, hp⟩, fun ⟨p, hp⟩ => ⟨_, p, hp, rfl⟩⟩
  have hconverts := (RuleMap.parse_ok_iff hnodup).1 ⟨rules, hparse⟩
  rw [← RuleMap.find?_eq_none_iff_keys, ← not_iff_not]
  refine hanswers.trans ⟨fun ⟨p, key, bound, hfind, _⟩ => ?_, fun hsome => ?_⟩
  · rw [hfind]
    exact Option.some_ne_none _
  · obtain ⟨⟨key, bound⟩, hfind⟩ := Option.ne_none_iff_exists'.1 hsome
    obtain ⟨converted, hconvert⟩ := hconverts _ (List.mem_of_find?_eq_some hfind)
    obtain ⟨p, hcarries, -⟩ := RuleMap.convert_ok_iff.1 hconvert
    exact ⟨p, key, bound, hfind, hcarries⟩

/-- **The authorizer of a map allows what the map permits.** -/
theorem decide_eq_ok_iff (hnodup : map.keys.Nodup) (h : ofMap map = .ok authorizer) (user : Option User)
    (t : RequestTarget) : authorizer.decide user t = .ok () ↔ map.Permits user t := by
  obtain ⟨rules, hparse, rfl⟩ := exists_rules_of_ofMap h
  unfold decide
  dsimp only
  cases hfirst : RequestRules.forTarget rules t with
  | none => exact ⟨fun _ => .inl ((forTarget_eq_none_iff hnodup hparse).1 hfirst), fun _ => rfl⟩
  | some attributes =>
    obtain ⟨p, hgoverns, rfl⟩ := (forTarget_eq_some_iff hnodup hparse).1 hfirst
    have happlies : ¬ ∀ key ∈ map.keys, key.applies t = false := by
      rw [← forTarget_eq_none_iff hnodup hparse, hfirst]
      exact Option.some_ne_none _
    have hpermits : map.Permits user t ↔ p.expression.evaluate Root.builtin (t.context user) = .ok true := by
      constructor
      · rintro (hnone | ⟨p', hgoverns', htrue⟩)
        · exact absurd hnone happlies
        · rwa [hgoverns.unique hgoverns']
      · exact fun htrue => .inr ⟨p, hgoverns, htrue⟩
    rw [hpermits]
    exact DecisionManager.decide_expression_eq_ok_iff

end UrlAuthorizer
end BrokerGuard
