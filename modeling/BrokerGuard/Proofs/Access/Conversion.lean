import BrokerGuard.Proofs.Access.Lookup
import Mathlib.Data.List.Forall2
/-!
# Conversion — from a map of attributes to a map of expressions

`Offends` says what can be wrong with an entry of a rule map: it carries no attribute or several, or a text that the parser
does not read.  A map that was filled by insertions is converted entry by entry, or the conversion stops at the first entry
that offends (`parse_entrywise`).  Since the keys of such a map are distinct, inserting the converted entries one after the
other merges nothing and keeps their order; and nothing is left to do on what comes out (`parse_of_parsed`).
-/
namespace BrokerGuard
namespace RuleMap

variable {κ : Type} {display : κ → String} {parser : ExpressionParser}

/-! ## One entry -/

/-- What is wrong with an entry. -/
inductive Offends (display : κ → String) (parser : ExpressionParser) : κ × List Attribute → ConfigurationError → Prop
  | count {key attributes} (h : attributes.length ≠ 1) :
    Offends display parser (key, attributes) (.attributeCount (display key) attributes.length)
  | text {key text cause} (h : parser text = .error cause) :
    Offends display parser (key, [.raw text]) (.expressionParse (display key) text cause)

theorem convert_of_length_ne {attributes : List Attribute} (h : attributes.length ≠ 1) (display : κ → String)
    (parser : ExpressionParser) (key : κ) :
    convert display parser (key, attributes) = .error (.attributeCount (display key) attributes.length) := by
  have hentry : parseEntry display parser key attributes =
      .error (.attributeCount (display key) attributes.length) := by
    unfold parseEntry
    split
    · exact absurd rfl h
    · exact absurd rfl h
    · rfl
  rw [convert, hentry]
  rfl

theorem convert_error_iff {entry : κ × List Attribute} {e : ConfigurationError} :
    convert display parser entry = .error e ↔ Offends display parser entry e := by
  obtain ⟨key, attributes⟩ := entry
  constructor
  · intro h
    by_cases hlength : attributes.length = 1
    · obtain ⟨single, rfl⟩ := List.length_eq_one_iff.1 hlength
      cases single with
      | parsed p => cases h
      | raw text =>
        cases hp : parser text with
        | ok p => rw [convert_raw_of_ok hp] at h; cases h
        | error cause => rw [convert_raw_of_error hp] at h; cases h; exact .text hp
    · rw [convert_of_length_ne hlength] at h
      cases h
      exact .count hlength
  · intro h
    cases h with
    | count hlength => exact convert_of_length_ne hlength display parser key
    | text hp => exact convert_raw_of_error hp display key

theorem convert_ok_iff_not_offends {entry : κ × List Attribute} :
    (∃ converted, convert display parser entry = .ok converted) ↔ ¬ ∃ e, Offends display parser entry e := by
  simp only [← convert_error_iff]
  cases convert display parser entry with
  | error e => simp
  | ok converted => simp

theorem convert_ok_iff_converts {entry converted : κ × List Attribute} :
    convert display parser entry = .ok converted ↔ converted.1 = entry.1 ∧ Converts parser entry.2 converted.2 := by
  obtain ⟨key, attributes⟩ := entry
  constructor
  · intro h
    exact ⟨fst_of_convert h, converts_of_convert h⟩
  · obtain ⟨key', attributes'⟩ := converted
    rintro ⟨rfl, p, rfl | ⟨text, rfl, hp⟩, rfl⟩
    · rfl
    · exact convert_raw_of_ok hp display key'

/-! ## All entries -/

theorem mapM_convert_ok_iff_forall₂ : ∀ {entries converted : List (κ × List Attribute)},
    entries.mapM (convert display parser) = .ok converted ↔
      List.Forall₂ (fun entry entry' => entry'.1 = entry.1 ∧ Converts parser entry.2 entry'.2) entries converted
  | [], converted => by
    rw [List.forall₂_nil_left_iff, List.mapM_nil]
    exact ⟨fun h => (Except.ok.inj h).symm, fun h => h ▸ rfl⟩
  | entry :: rest, converted => by
    constructor
    · intro h
      obtain ⟨head, tail, hhead, htail, rfl⟩ := mapM_convert_cons h
      exact .cons (convert_ok_iff_converts.1 hhead) (mapM_convert_ok_iff_forall₂.1 htail)
    · intro h
      obtain ⟨head, tail, hhead, htail, rfl⟩ := List.forall₂_cons_left_iff.1 h
      rw [List.mapM_cons, convert_ok_iff_converts.2 hhead, mapM_convert_ok_iff_forall₂.2 htail]
      rfl

theorem mapM_convert_error_iff {entries : List (κ × List Attribute)} {e : ConfigurationError} :
    entries.mapM (convert display parser) = .error e ↔
      ∃ before entry after, entries = before ++ entry :: after ∧ Offends display parser entry e ∧
        ∀ other ∈ before, ¬ ∃ e', Offends display parser other e' := by
  simp only [← convert_ok_iff_not_offends]
  simp only [← convert_error_iff]
  constructor
  · exact split_of_mapM_convert_error
  · rintro ⟨before, entry, after, rfl, hentry, hbefore⟩
    obtain ⟨done, hdone⟩ := mapM_convert_ok_iff.2 hbefore
    rw [List.mapM_append, hdone, List.mapM_cons, hentry]
    rfl

/-! ## The map -/

variable [DecidableEq κ]

section Distinct

variable {map : RuleMap κ} (hnodup : map.keys.Nodup)

include hnodup

theorem parse_eq_ok_iff_mapM {rules : RuleMap κ} :
    map.parse display (some parser) = .ok rules ↔ map.entries.mapM (convert display parser) = .ok rules.entries := by
  rw [parse_eq_mapM hnodup]
  cases map.entries.mapM (convert display parser) with
  | error e => simp [Except.map]
  | ok converted =>
    constructor
    · rintro ⟨⟩
      rfl
    · rintro ⟨⟩
      rfl

theorem parse_eq_ok_iff {rules : RuleMap κ} : map.parse display (some parser) = .ok rules ↔
    List.Forall₂ (fun entry entry' => entry'.1 = entry.1 ∧ Converts parser entry.2 entry'.2) map.entries rules.entries :=
  (parse_eq_ok_iff_mapM hnodup).trans mapM_convert_ok_iff_forall₂

theorem keys_of_parse {rules : RuleMap κ} (h : map.parse display (some parser) = .ok rules) : rules.keys = map.keys :=
  keys_of_mapM_convert ((parse_eq_ok_iff_mapM hnodup).1 h)

theorem parse_eq_error_iff {e : ConfigurationError} : map.parse display (some parser) = .error e ↔
    ∃ before entry after, map.entries = before ++ entry :: after ∧ Offends display parser entry e ∧
      ∀ other ∈ before, ¬ ∃ e', Offends display parser other e' := by
  rw [← mapM_convert_error_iff, parse_eq_mapM hnodup]
  cases map.entries.mapM (convert display parser) with
  | error e' => simp [Except.map]
  | ok converted => simp [Except.map]

/-- **A map of expressions is what it comes to**, whatever the parser. -/
theorem parse_of_parsed (h : map.Parsed) : map.parse display (some parser) = .ok map := by
  rw [parse_eq_ok_iff hnodup, List.forall₂_same]
  intro entry hentry
  obtain ⟨p, hp⟩ := h entry hentry
  exact ⟨rfl, p, .inl hp, hp⟩

theorem exists_parse_error_iff : (∃ e, map.parse display (some parser) = .error e) ↔
    ∃ entry ∈ map.entries, ∃ e, Offends display parser entry e := by
  have hall : (∃ rules, map.parse display (some parser) = .ok rules) ↔
      ∀ entry ∈ map.entries, ¬ ∃ e, Offends display parser entry e := by
    rw [parse_ok_iff hnodup]
    exact forall₂_congr fun entry _ => convert_ok_iff_not_offends
  cases hparse : map.parse display (some parser) with
  | error e =>
    refine ⟨fun _ => ?_, fun _ => ⟨e, rfl⟩⟩
    by_contra hnone
    obtain ⟨rules, hrules⟩ := hall.2 fun entry hentry hoffends => hnone ⟨entry, hentry, hoffends⟩
    rw [hrules] at hparse
    cases hparse
  | ok rules =>
    refine ⟨fun ⟨e, he⟩ => (by cases he), fun ⟨entry, hentry, hoffends⟩ => ?_⟩
    exact absurd hoffends (hall.1 ⟨rules, hparse⟩ entry hentry)

end Distinct

/-- **The conversion of a map that was filled by insertions.**  Without a parser there is none.  With a parser it fails exactly
when some entry offends, with what is wrong with the first entry that does.  Otherwise the keys stay as they are and each
carries one expression, the one that it carried or the one that its text was read as; and then converting once more, with
whatever parser, changes nothing. -/
theorem parse_entrywise (history : List (κ × List Attribute)) (display : κ → String) :
    (ofList history).parse display none = .error .missingExpressionParser ∧
    ∀ parser : ExpressionParser,
      ((∃ e, (ofList history).parse display (some parser) = .error e) ↔
        ∃ entry ∈ (ofList history).entries, ∃ e, Offends display parser entry e) ∧
      (∀ e, (ofList history).parse display (some parser) = .error e ↔
        ∃ before entry after, (ofList history).entries = before ++ entry :: after ∧ Offends display parser entry e ∧
          ∀ other ∈ before, ¬ ∃ e', Offends display parser other e') ∧
      (∀ rules, (ofList history).parse display (some parser) = .ok rules ↔
        List.Forall₂ (fun entry entry' => entry'.1 = entry.1 ∧ Converts parser entry.2 entry'.2)
          (ofList history).entries rules.entries) ∧
      ∀ rules, (ofList history).parse display (some parser) = .ok rules →
        ∀ parser', rules.parse display (some parser') = .ok rules := by
  have hnodup : (ofList history).keys.Nodup := by
    rw [keys, entries_ofList]
    exact Bindings.nodup_keys_bindAll history
  refine ⟨rfl, fun parser => ⟨exists_parse_error_iff hnodup, fun e => parse_eq_error_iff hnodup,
    fun rules => parse_eq_ok_iff hnodup, fun rules hparse parser' => ?_⟩⟩
  have hdistinct : rules.keys.Nodup := keys_of_parse hnodup hparse ▸ hnodup
  exact parse_of_parsed hdistinct (parsed_of_parse hparse)

/-- Rules of which one was read before and one was replaced. -/
def mixed : List (RequestKey × List Attribute) :=
  [(.ant "/admin/**" none, [.raw "denyAll()", .raw "permitAll()"]), (.ant "/api/**" (some "POST"), [.parsed ⟨"true", .literal true⟩]),
    (.ant "/admin/**" none, [.raw "hasRole('ADMIN')"])]

theorem parse_entrywise_mixed : ∃ rules : RuleMap RequestKey,
    (ofList mixed).parse RequestKey.display (some .standard) = .ok rules ∧
      rules.parse RequestKey.display (some fun _ => .error .empty) = .ok rules := by
  obtain ⟨-, hparser⟩ := parse_entrywise mixed RequestKey.display
  obtain ⟨-, -, -, hagain⟩ := hparser .standard
  exact ⟨_, rfl, hagain _ rfl _⟩

end RuleMap
end BrokerGuard
