import BrokerGuard.Access.RuleSource
import BrokerGuard.Proofs.Bindings
/-!
# Rule maps — keys, look-up and conversion

Inserting keeps the keys distinct and in the order in which they first came (`keys_insert`, `nodup_keys_insert`).  In a map
with distinct keys the conversion treats every entry by itself (`parse_eq_mapM`), so the first key that applies to an object
is the same before and after it (`findFirst_of_parse`).  What comes out of the conversion of any map carries one expression
under every key (`parsed_of_parse`).
-/
namespace BrokerGuard
namespace RuleMap

variable {κ : Type} [DecidableEq κ]

/-! ## Keys -/

theorem insertInto_of_not_mem {key : κ} {attributes : List Attribute} :
    ∀ {entries : List (κ × List Attribute)}, key ∉ entries.map Prod.fst →
      insertInto key attributes entries = entries ++ [(key, attributes)]
  | [], _ => rfl
  | (k, old) :: rest, h => by
    rw [List.map_cons, List.mem_cons, not_or] at h
    rw [insertInto, if_neg (Ne.symm h.1), insertInto_of_not_mem h.2]
    rfl

theorem insertInto_eq_bindIn (key : κ) (attributes : List Attribute) :
    ∀ entries : List (κ × List Attribute), insertInto key attributes entries = Bindings.bindIn key attributes entries
  | [] => rfl
  | (k, old) :: rest => by
    unfold insertInto Bindings.bindIn
    rw [insertInto_eq_bindIn key attributes rest]

/-- **A new key comes last, and a key that is there keeps its place.** -/
theorem keys_insert (map : RuleMap κ) (key : κ) (attributes : List Attribute) :
    (map.insert key attributes).keys = if key ∈ map.keys then map.keys else map.keys ++ [key] := by
  unfold keys insert
  rw [insertInto_eq_bindIn]
  exact Bindings.keys_bindIn key attributes map.entries

theorem nodup_keys_insert {map : RuleMap κ} (h : map.keys.Nodup) (key : κ) (attributes : List Attribute) :
    (map.insert key attributes).keys.Nodup := by
  unfold keys insert
  rw [insertInto_eq_bindIn]
  exact Bindings.nodup_keys_bindIn h key attributes

theorem mem_insertInto {key : κ} {attributes : List Attribute} {entry : κ × List Attribute} :
    ∀ {entries : List (κ × List Attribute)}, entry ∈ insertInto key attributes entries →
      entry = (key, attributes) ∨ entry ∈ entries
  | [], h => Or.inl (List.mem_singleton.1 h)
  | (k, old) :: rest, h => by
    rw [insertInto] at h
    split at h
    · rename_i hk
      rw [hk] at h
      rcases List.mem_cons.1 h with h | h
      · exact Or.inl h
      · exact Or.inr (List.mem_cons_of_mem _ h)
    · rcases List.mem_cons.1 h with rfl | h
      · exact Or.inr List.mem_cons_self
      · exact (mem_insertInto h).imp_right (List.mem_cons_of_mem _)

theorem mem_insertInto_self (key : κ) (attributes : List Attribute) :
    ∀ entries : List (κ × List Attribute), (key, attributes) ∈ insertInto key attributes entries
  | [] => List.mem_singleton.2 rfl
  | (k, old) :: rest => by
    unfold insertInto
    by_cases hk : k = key
    · rw [if_pos hk, hk]
      exact List.mem_cons_self
    · rw [if_neg hk]
      exact List.mem_cons_of_mem _ (mem_insertInto_self key attributes rest)

theorem mem_insertInto_of_ne {key : κ} {attributes : List Attribute} {entry : κ × List Attribute}
    (hne : entry.1 ≠ key) :
    ∀ {entries : List (κ × List Attribute)}, entry ∈ entries → entry ∈ insertInto key attributes entries
  | (k, old) :: rest, h => by
    unfold insertInto
    by_cases hk : k = key
    · rw [if_pos hk]
      rcases List.mem_cons.1 h with rfl | h
      · exact absurd hk hne
      · exact List.mem_cons_of_mem _ h
    · rw [if_neg hk]
      rcases List.mem_cons.1 h with rfl | h
      · exact List.mem_cons_self
      · exact List.mem_cons_of_mem _ (mem_insertInto_of_ne hne h)

theorem find?_beq_self {keys : List κ} {key : κ} (h : key ∈ keys) : keys.find? (· == key) = some key := by
  cases hfind : keys.find? (· == key) with
  | none => exact absurd (beq_self_eq_true key) (List.find?_eq_none.1 hfind key h)
  | some k => rw [eq_of_beq (List.find?_some (p := (· == key)) hfind)]

omit [DecidableEq κ] in
/-- With distinct keys, the first entry whose key passes the test is the entry of the first such key. -/
theorem find?_of_find?_keys {test : κ → Bool} {key : κ} {attributes : List Attribute} :
    ∀ {entries : List (κ × List Attribute)}, (entries.map Prod.fst).Nodup → (key, attributes) ∈ entries →
      (entries.map Prod.fst).find? test = some key → (entries.find? fun e => test e.1) = some (key, attributes)
  | (k, old) :: rest, hnodup, hmem, hfirst => by
    rw [List.map_cons, List.nodup_cons] at hnodup
    rw [List.map_cons, List.find?_cons] at hfirst
    rw [List.find?_cons]
    cases hk : test k with
    | true =>
      rw [hk] at hfirst
      obtain rfl := Option.some.inj hfirst
      rcases List.mem_cons.1 hmem with heq | hmem
      · rw [heq]
      · exact absurd (List.mem_map.2 ⟨_, hmem, rfl⟩) hnodup.1
    | false =>
      rw [hk] at hfirst
      rcases List.mem_cons.1 hmem with heq | hmem
      · obtain ⟨rfl, -⟩ := Prod.mk.inj heq
        rw [List.find?_some hfirst] at hk
        cases hk
      · exact find?_of_find?_keys hnodup.2 hmem hfirst

/-! ## Conversion -/

/-- The converted form of an entry: its key with the single expression attribute. -/
def convert (display : κ → String) (parser : ExpressionParser) (entry : κ × List Attribute) :
    Except ConfigurationError (κ × List Attribute) :=
  (parseEntry display parser entry.1 entry.2).map fun single => (entry.1, [single])

theorem parseEntries_eq {display : κ → String} {parser : ExpressionParser} :
    ∀ {entries : List (κ × List Attribute)} {done : RuleMap κ}, (done.keys ++ entries.map Prod.fst).Nodup →
      parseEntries display parser done entries =
        (entries.mapM (convert display parser)).map fun converted => ⟨done.entries ++ converted⟩
  | [], done, _ => by
    rw [parseEntries, List.mapM_nil]
    exact congrArg Except.ok (congrArg RuleMap.mk (List.append_nil _).symm)
  | (key, attributes) :: rest, done, h => by
    have hkey : key ∉ done.keys := fun hmem =>
      (List.nodup_append.1 h).2.2 key hmem key (by simp) rfl
    have hentries : ∀ a, (done.insert key [a]).entries = done.entries ++ [(key, [a])] := fun a =>
      insertInto_of_not_mem hkey
    rw [parseEntries, List.mapM_cons, convert]
    cases parseEntry display parser key attributes with
    | error e => rfl
    | ok a =>
      have hnodup : ((done.insert key [a]).keys ++ rest.map Prod.fst).Nodup := by
        rw [keys_insert, if_neg hkey, List.append_assoc]
        exact h
      dsimp only
      rw [parseEntries_eq hnodup, hentries]
      cases rest.mapM (convert display parser) with
      | error e => rfl
      | ok converted => exact congrArg Except.ok (congrArg RuleMap.mk (List.append_assoc _ _ _))

/-- **The conversion treats every entry by itself** and stops at the first that does not comply. -/
theorem parse_eq_mapM {map : RuleMap κ} (h : map.keys.Nodup) (display : κ → String) (parser : ExpressionParser) :
    map.parse display (some parser) = (map.entries.mapM (convert display parser)).map RuleMap.mk :=
  parseEntries_eq h

omit [DecidableEq κ] in
theorem fst_of_convert {display : κ → String} {parser : ExpressionParser} {entry converted : κ × List Attribute}
    (h : convert display parser entry = .ok converted) : converted.1 = entry.1 := by
  rw [convert] at h
  cases hp : parseEntry display parser entry.1 entry.2 with
  | error e => rw [hp] at h; cases h
  | ok a => rw [hp] at h; cases h; rfl

omit [DecidableEq κ] in
theorem convert_raw_of_ok {parser : ExpressionParser} {text : String} {p : ParsedExpression} (hp : parser text = .ok p)
    (display : κ → String) (key : κ) : convert display parser (key, [.raw text]) = .ok (key, [.parsed p]) := by
  unfold convert parseEntry
  simp only [hp]
  rfl

omit [DecidableEq κ] in
theorem convert_raw_of_error {parser : ExpressionParser} {text : String} {cause : ParseError}
    (hp : parser text = .error cause) (display : κ → String) (key : κ) :
    convert display parser (key, [.raw text]) = .error (.expressionParse (display key) text cause) := by
  unfold convert parseEntry
  simp only [hp]
  rfl

omit [DecidableEq κ] in
theorem mapM_convert_cons {display : κ → String} {parser : ExpressionParser} {entry : κ × List Attribute}
    {rest converted : List (κ × List Attribute)} (h : (entry :: rest).mapM (convert display parser) = .ok converted) :
    ∃ head tail, convert display parser entry = .ok head ∧ rest.mapM (convert display parser) = .ok tail ∧
      converted = head :: tail := by
  rw [List.mapM_cons] at h
  cases hhead : convert display parser entry with
  | error e => rw [hhead] at h; cases h
  | ok head =>
    cases htail : rest.mapM (convert display parser) with
    | error e => rw [hhead, htail] at h; cases h
    | ok tail => rw [hhead, htail] at h; cases h; exact ⟨head, tail, rfl, rfl, rfl⟩

omit [DecidableEq κ] in
theorem find?_of_mapM_convert {display : κ → String} {parser : ExpressionParser} (test : κ → Bool) :
    ∀ {entries converted : List (κ × List Attribute)}, entries.mapM (convert display parser) = .ok converted →
      (converted.find? fun e => test e.1) =
        (entries.find? fun e => test e.1).bind fun e => (convert display parser e).toOption
  | [], converted, h => by
    cases h
    rfl
  | entry :: rest, converted, h => by
    obtain ⟨head, tail, hhead, htail, rfl⟩ := mapM_convert_cons h
    rw [List.find?_cons, List.find?_cons, fst_of_convert hhead]
    cases test entry.1 with
    | true => dsimp only [Option.bind_some]; rw [hhead]; rfl
    | false => exact find?_of_mapM_convert test htail

omit [DecidableEq κ] in
theorem mapM_convert_ok_iff {display : κ → String} {parser : ExpressionParser} :
    ∀ {entries : List (κ × List Attribute)}, (∃ converted, entries.mapM (convert display parser) = .ok converted) ↔
      ∀ entry ∈ entries, ∃ converted, convert display parser entry = .ok converted
  | [] => ⟨fun _ _ h => absurd h List.not_mem_nil, fun _ => ⟨[], rfl⟩⟩
  | entry :: rest => by
    rw [List.forall_mem_cons, ← mapM_convert_ok_iff]
    constructor
    · rintro ⟨converted, h⟩
      obtain ⟨head, tail, hhead, htail, -⟩ := mapM_convert_cons h
      exact ⟨⟨head, hhead⟩, ⟨tail, htail⟩⟩
    · rintro ⟨⟨head, hhead⟩, ⟨tail, htail⟩⟩
      exact ⟨head :: tail, by rw [List.mapM_cons, hhead, htail]; rfl⟩

theorem parse_ok_iff {map : RuleMap κ} (hnodup : map.keys.Nodup) {display : κ → String} {parser : ExpressionParser} :
    (∃ rules, map.parse display (some parser) = .ok rules) ↔
      ∀ entry ∈ map.entries, ∃ converted, convert display parser entry = .ok converted := by
  rw [parse_eq_mapM hnodup, ← mapM_convert_ok_iff]
  constructor
  · rintro ⟨rules, h⟩
    cases hc : map.entries.mapM (convert display parser) with
    | error e => rw [hc] at h; cases h
    | ok converted => exact ⟨converted, rfl⟩
  · rintro ⟨converted, h⟩
    exact ⟨⟨converted⟩, by rw [h]; rfl⟩

/-! ## Parsed maps -/

/-- Every key carries exactly one attribute, an expression that was read. -/
def Parsed {κ : Type} (rules : RuleMap κ) : Prop := ∀ entry ∈ rules.entries, ∃ p, entry.2 = [Attribute.parsed p]

theorem Parsed.insert {rules : RuleMap κ} (h : rules.Parsed) (key : κ) (p : ParsedExpression) :
    (rules.insert key [.parsed p]).Parsed := by
  intro entry hentry
  rcases mem_insertInto hentry with rfl | hold
  · exact ⟨p, rfl⟩
  · exact h entry hold

omit [DecidableEq κ] in
theorem parsed_of_parseEntry {display : κ → String} {parser : ExpressionParser} {key : κ} {bound : List Attribute}
    {single : Attribute} (h : parseEntry display parser key bound = .ok single) : ∃ p, single = .parsed p := by
  unfold parseEntry at h
  split at h
  · rename_i p
    exact ⟨p, (Except.ok.inj h).symm⟩
  · rename_i text
    cases hp : parser text with
    | ok p => rw [hp] at h; exact ⟨p, (Except.ok.inj h).symm⟩
    | error cause => rw [hp] at h; cases h
  · cases h

theorem parsed_of_parseEntries {display : κ → String} {parser : ExpressionParser} {rules : RuleMap κ} :
    ∀ {entries : List (κ × List Attribute)} {done : RuleMap κ}, done.Parsed →
      parseEntries display parser done entries = .ok rules → rules.Parsed
  | [], _, hdone, h => by cases h; exact hdone
  | (key, bound) :: rest, done, hdone, h => by
    rw [parseEntries] at h
    cases hentry : parseEntry display parser key bound with
    | error e => rw [hentry] at h; cases h
    | ok single =>
      rw [hentry] at h
      obtain ⟨p, rfl⟩ := parsed_of_parseEntry hentry
      exact parsed_of_parseEntries (hdone.insert key p) h

/-- **What the conversion yields carries one expression under every key**, whatever the map carried. -/
theorem parsed_of_parse {map rules : RuleMap κ} {display : κ → String} {parser : Option ExpressionParser}
    (h : map.parse display parser = .ok rules) : rules.Parsed := by
  cases parser with
  | none => cases h
  | some parser =>
    have hempty : ({} : RuleMap κ).Parsed := fun _ hmem => absurd hmem List.not_mem_nil
    exact parsed_of_parseEntries hempty h

omit [DecidableEq κ] in
theorem Parsed.of_findFirst {rules : RuleMap κ} (h : rules.Parsed) {test : κ → Bool} {attributes : List Attribute}
    (hfirst : rules.findFirst test = some attributes) : ∃ p, attributes = [.parsed p] := by
  obtain ⟨entry, hentry, rfl⟩ := Option.map_eq_some_iff.1 hfirst
  exact h entry (List.mem_of_find?_eq_some hentry)

/-! ## Look-up -/

/-- **The first key that applies to an object carries, after the conversion, the converted form of what it carried.** -/
theorem findFirst_of_parse {map rules : RuleMap κ} {display : κ → String} {parser : ExpressionParser}
    (hnodup : map.keys.Nodup) (h : map.parse display (some parser) = .ok rules) (test : κ → Bool) :
    rules.findFirst test = (map.entries.find? fun e => test e.1).bind fun e =>
      (convert display parser e).toOption.map Prod.snd := by
  rw [parse_eq_mapM hnodup] at h
  cases hc : map.entries.mapM (convert display parser) with
  | error e => rw [hc] at h; cases h
  | ok converted =>
    rw [hc] at h
    cases h
    rw [findFirst, find?_of_mapM_convert test hc, Option.map_bind]
    rfl

end RuleMap
end BrokerGuard
