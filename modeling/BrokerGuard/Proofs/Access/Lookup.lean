import BrokerGuard.Access.RequestKey
import BrokerGuard.Proofs.Access.RuleMap
/-!
# Look-up — rule maps after any history of insertions

However rules come into a map, its keys stand in the order in which they first came, each carries what it was bound to
last, and an object is answered by the first key that applies to it (`Follows`).  The conversion to parsed rules changes
none of this (`follows_of_parse`).  Replacing the attributes of a key in place is sound because keys are told apart by
what their meaning is computed from (`RequestKey.sameAs_iff`).
-/
namespace BrokerGuard

open Bindings (Latest bindAll)

namespace RuleMap

variable {κ α τ : Type}

/-! ## The conversion of entries -/

/-- What a parsed rule carries: the expression that was bound to its key, read if it was a text. -/
def Converts (parser : ExpressionParser) (bound attributes : List Attribute) : Prop :=
  ∃ p, (bound = [.parsed p] ∨ ∃ text, bound = [.raw text] ∧ parser text = .ok p) ∧ attributes = [.parsed p]

theorem converts_of_convert {display : κ → String} {parser : ExpressionParser} {entry converted : κ × List Attribute}
    (h : convert display parser entry = .ok converted) : Converts parser entry.2 converted.2 := by
  unfold convert parseEntry at h
  split at h
  · rename_i p hbound
    cases h
    exact ⟨p, .inl hbound, rfl⟩
  · rename_i text hbound
    cases hp : parser text with
    | error cause => rw [hp] at h; cases h
    | ok p =>
      rw [hp] at h
      cases h
      exact ⟨p, .inr ⟨text, hbound, hp⟩, rfl⟩
  · cases h

theorem keys_of_mapM_convert {display : κ → String} {parser : ExpressionParser} :
    ∀ {entries converted : List (κ × List Attribute)}, entries.mapM (convert display parser) = .ok converted →
      converted.map Prod.fst = entries.map Prod.fst
  | [], _, h => by cases h; rfl
  | entry :: rest, _, h => by
    obtain ⟨head, tail, hhead, htail, rfl⟩ := mapM_convert_cons h
    rw [List.map_cons, List.map_cons, fst_of_convert hhead, keys_of_mapM_convert htail]

theorem mem_of_mapM_convert {display : κ → String} {parser : ExpressionParser} {entry' : κ × List Attribute} :
    ∀ {entries converted : List (κ × List Attribute)}, entries.mapM (convert display parser) = .ok converted →
      entry' ∈ converted → ∃ entry ∈ entries, convert display parser entry = .ok entry'
  | [], _, h, hmem => by cases h; exact absurd hmem List.not_mem_nil
  | entry :: rest, _, h, hmem => by
    obtain ⟨head, tail, hhead, htail, rfl⟩ := mapM_convert_cons h
    rcases List.mem_cons.1 hmem with rfl | hmem
    · exact ⟨entry, List.mem_cons_self, hhead⟩
    · obtain ⟨other, hother, hconvert⟩ := mem_of_mapM_convert htail hmem
      exact ⟨other, List.mem_cons_of_mem _ hother, hconvert⟩

/-- The conversion stops at the first entry that does not comply. -/
theorem split_of_mapM_convert_error {display : κ → String} {parser : ExpressionParser} {e : ConfigurationError} :
    ∀ {entries : List (κ × List Attribute)}, entries.mapM (convert display parser) = .error e →
      ∃ before entry after, entries = before ++ entry :: after ∧ convert display parser entry = .error e ∧
        ∀ other ∈ before, ∃ converted, convert display parser other = .ok converted
  | [], h => by cases h
  | entry :: rest, h => by
    rw [List.mapM_cons] at h
    cases hhead : convert display parser entry with
    | error e' =>
      rw [hhead] at h
      cases h
      exact ⟨[], entry, rest, rfl, hhead, fun _ hmem => absurd hmem List.not_mem_nil⟩
    | ok head =>
      cases htail : rest.mapM (convert display parser) with
      | ok tail => rw [hhead, htail] at h; cases h
      | error e' =>
        rw [hhead, htail] at h
        cases h
        obtain ⟨before, other, after, rfl, hother, hbefore⟩ := split_of_mapM_convert_error htail
        exact ⟨entry :: before, other, after, rfl, hother, List.forall_mem_cons.2 ⟨⟨head, hhead⟩, hbefore⟩⟩

/-! ## Histories -/

variable [DecidableEq κ]

/-- The map answers for a history of bindings: `Reads` says how the attributes of a key come from what it was bound to,
`applies` when a key applies to an object, and `answer` is what the map answers for an object. -/
structure Follows (map : RuleMap κ) (history : List (κ × α)) (Reads : α → List Attribute → Prop) (applies : κ → τ → Bool)
    (answer : τ → Option (List Attribute)) : Prop where
  distinct : map.keys.Nodup
  ordered : map.keys = (history.map Prod.fst).eraseDups
  carries : ∀ key ∈ map.keys, ∃ bound attributes,
    Latest history key bound ∧ Reads bound attributes ∧ map.get? key = some attributes
  answers : ∀ object, answer object = (map.keys.find? (applies · object)).bind map.get?
  silent : ∀ object, answer object = none ↔ ∀ binding ∈ history, applies binding.1 object = false

theorem entries_foldl_insert (f : α → List Attribute) (history : List (κ × α)) :
    (history.foldl (fun map b => map.insert b.1 (f b.2)) ({} : RuleMap κ)).entries =
      (bindAll history).map (Prod.map id f) := by
  induction history using List.reverseRecOn with
  | nil => rfl
  | append_singleton history last ih =>
    rw [Bindings.bindAll_concat, ← Bindings.bindIn_map Function.injective_id, ← ih, List.foldl_append]
    exact insertInto_eq_bindIn _ _ _

theorem entries_ofList (history : List (κ × List Attribute)) : (ofList history).entries = bindAll history := by
  have h := entries_foldl_insert (fun attributes => attributes) history
  have hsame : Prod.map id (fun attributes => attributes) = @id (κ × List Attribute) := rfl
  rw [hsame, List.map_id] at h
  exact h

/-! ## Answers -/

theorem get?_of_mem {map : RuleMap κ} (hnodup : map.keys.Nodup) {key : κ} {attributes : List Attribute}
    (h : (key, attributes) ∈ map.entries) : map.get? key = some attributes := by
  have hkey : (map.entries.map Prod.fst).find? (· == key) = some key := find?_beq_self (List.mem_map.2 ⟨_, h, rfl⟩)
  unfold get? findFirst
  rw [find?_of_find?_keys hnodup h hkey]
  rfl

theorem findFirst_eq_bind {map : RuleMap κ} (hnodup : map.keys.Nodup) (test : κ → Bool) :
    map.findFirst test = (map.keys.find? test).bind map.get? := by
  cases hfind : map.keys.find? test with
  | none =>
    have hnone : (map.entries.find? fun e => test e.1) = none := by
      rw [List.find?_eq_none] at hfind ⊢
      intro entry hentry
      exact hfind entry.1 (List.mem_map.2 ⟨entry, hentry, rfl⟩)
    unfold findFirst
    rw [hnone]
    rfl
  | some key =>
    obtain ⟨⟨k, attributes⟩, hentry, rfl⟩ := List.mem_map.1 (List.mem_of_find?_eq_some hfind)
    have hfirst := find?_of_find?_keys hnodup hentry hfind
    unfold findFirst
    rw [hfirst, Option.bind_some, get?_of_mem hnodup hentry]
    rfl

/-- **A map answers for a history** when its keys are the keys of the history and each entry comes from what its key was
bound to last. -/
theorem Follows.of_entries {map : RuleMap κ} {history : List (κ × α)} {Reads : α → List Attribute → Prop}
    (hkeys : map.keys = (bindAll history).map Prod.fst)
    (hentries : ∀ entry ∈ map.entries, ∃ bound, Latest history entry.1 bound ∧ Reads bound entry.2)
    (applies : κ → τ → Bool) : map.Follows history Reads applies fun object => map.findFirst (applies · object) := by
  have hnodup : map.keys.Nodup := hkeys ▸ Bindings.nodup_keys_bindAll history
  have hordered : map.keys = (history.map Prod.fst).eraseDups := hkeys.trans (Bindings.keys_bindAll history)
  have hcarries : ∀ key ∈ map.keys, ∃ bound attributes,
      Latest history key bound ∧ Reads bound attributes ∧ map.get? key = some attributes := by
    intro key hkey
    obtain ⟨⟨k, attributes⟩, hentry, rfl⟩ := List.mem_map.1 hkey
    obtain ⟨bound, hlatest, hreads⟩ := hentries _ hentry
    exact ⟨bound, attributes, hlatest, hreads, get?_of_mem hnodup hentry⟩
  refine ⟨hnodup, hordered, hcarries, fun object => findFirst_eq_bind hnodup _, fun object => ?_⟩
  have hmem : ∀ key, key ∈ map.keys ↔ ∃ binding ∈ history, binding.1 = key := by
    intro key
    rw [hordered, List.mem_eraseDups, List.mem_map]
  rw [findFirst_eq_bind hnodup]
  constructor
  · intro hnone binding hbinding
    cases hfind : map.keys.find? (applies · object) with
    | none => simpa using List.find?_eq_none.1 hfind binding.1 ((hmem _).2 ⟨binding, hbinding, rfl⟩)
    | some key =>
      obtain ⟨_, attributes, -, -, hget⟩ := hcarries key (List.mem_of_find?_eq_some hfind)
      rw [hfind, Option.bind_some, hget] at hnone
      cases hnone
  · intro hall
    have hfind : map.keys.find? (applies · object) = none := by
      rw [List.find?_eq_none]
      intro key hkey
      obtain ⟨binding, hbinding, rfl⟩ := (hmem key).1 hkey
      simp [hall binding hbinding]
    rw [hfind]
    rfl

theorem Follows.imp {map : RuleMap κ} {history : List (κ × α)} {Reads Reads' : α → List Attribute → Prop}
    {applies : κ → τ → Bool} {answer : τ → Option (List Attribute)} (h : map.Follows history Reads applies answer)
    (himp : ∀ bound attributes, Reads bound attributes → Reads' bound attributes) :
    map.Follows history Reads' applies answer where
  distinct := h.distinct
  ordered := h.ordered
  carries key hkey := by
    obtain ⟨bound, attributes, hlatest, hreads, hget⟩ := h.carries key hkey
    exact ⟨bound, attributes, hlatest, himp bound attributes hreads, hget⟩
  answers := h.answers
  silent := h.silent

/-- **Every map that was filled by insertions answers for them.** -/
theorem follows_ofList (history : List (κ × List Attribute)) (applies : κ → τ → Bool) :
    (ofList history).Follows history Eq applies fun object => (ofList history).findFirst (applies · object) := by
  refine .of_entries ?_ ?_ applies
  · rw [keys, entries_ofList]
  · intro entry hentry
    rw [entries_ofList] at hentry
    exact ⟨entry.2, Bindings.mem_bindAll_iff.1 hentry, rfl⟩

/-! ## Parsed rules -/

/-- **Parsed rules answer for the history of the map that they were made from.** -/
theorem follows_of_parse {map rules : RuleMap κ} {display : κ → String} {parser : ExpressionParser}
    {history : List (κ × α)} {f : α → List Attribute} (hmap : map.entries = (bindAll history).map (Prod.map id f))
    (hparse : map.parse display (some parser) = .ok rules) (applies : κ → τ → Bool) :
    rules.Follows history (fun bound => Converts parser (f bound)) applies
      fun object => rules.findFirst (applies · object) := by
  have hkeys : map.keys = (bindAll history).map Prod.fst := by
    rw [keys, hmap, List.map_map]
    rfl
  rw [parse_eq_mapM (hkeys ▸ Bindings.nodup_keys_bindAll history)] at hparse
  cases hconverted : map.entries.mapM (convert display parser) with
  | error e => rw [hconverted] at hparse; cases hparse
  | ok converted =>
    rw [hconverted] at hparse
    cases hparse
    refine .of_entries ((keys_of_mapM_convert hconverted).trans hkeys) ?_ applies
    intro entry' hentry'
    obtain ⟨entry, hentry, hconvert⟩ := mem_of_mapM_convert hconverted hentry'
    rw [hmap] at hentry
    obtain ⟨⟨key, bound⟩, hbound, rfl⟩ := List.mem_map.1 hentry
    refine ⟨bound, ?_, converts_of_convert hconvert⟩
    rw [fst_of_convert hconvert]
    exact Bindings.mem_bindAll_iff.1 hbound

end RuleMap

/-! ## Equal keys -/

/-- The text of a regular expression determines the expression. -/
theorem AnchoredRegex.eq_of_source {r r' : AnchoredRegex} (h : r.source = r'.source) : r = r' := by
  obtain ⟨source, program, reads⟩ := r
  obtain ⟨source', program', reads'⟩ := r'
  cases h
  have hprogram : program = program' := Option.some.inj (reads.symm.trans reads')
  cases hprogram
  rfl

namespace RequestKey

/-- A key that a configuration can have: of a path pattern, or of a text that is a regular expression. -/
inductive Made : RequestKey → Prop
  | ant (source : String) (method : Option String) : Made (.ant source method)
  | regex {source : String} {method : Option String} {key : RequestKey} (h : regex? source method = some key) : Made key

/-- The keys are of one kind, and their texts and methods agree. -/
def sameAs (k k' : RequestKey) : Bool :=
  (match k.pattern, k'.pattern with
    | .ant _, .ant _ => true
    | .regex _, .regex _ => true
    | _, _ => false) &&
  k.source == k'.source && k.method == k'.method

theorem exists_of_regex? {source : String} {method : Option String} {key : RequestKey}
    (h : regex? source method = some key) : ∃ r : AnchoredRegex, key = ⟨.regex r, method⟩ := by
  unfold regex? at h
  obtain ⟨r, -, rfl⟩ := Option.map_eq_some_iff.1 h
  exact ⟨r, rfl⟩

/-- **Kind, text and method determine a key**, and so the requests that it applies to. -/
theorem sameAs_iff {k k' : RequestKey} (hk : k.Made) (hk' : k'.Made) : k.sameAs k' = true ↔ k = k' := by
  constructor
  · intro h
    cases hk with
    | ant source method =>
      cases hk' with
      | ant source' method' =>
        simp only [sameAs, RequestKey.ant, RequestKey.source, Pattern.Ant.ofSource, Pattern.Ant.withSeparator,
          Bool.true_and, Bool.and_eq_true, beq_iff_eq] at h
        rw [h.1, h.2]
      | regex hr =>
        obtain ⟨r, rfl⟩ := exists_of_regex? hr
        simp [sameAs, RequestKey.ant] at h
    | regex hr =>
      obtain ⟨r, rfl⟩ := exists_of_regex? hr
      cases hk' with
      | ant source' method' => simp [sameAs, RequestKey.ant] at h
      | regex hr' =>
        obtain ⟨r', rfl⟩ := exists_of_regex? hr'
        simp only [sameAs, RequestKey.source, Bool.true_and, Bool.and_eq_true, beq_iff_eq] at h
        rw [AnchoredRegex.eq_of_source h.1, h.2]
  · rintro rfl
    cases hk with
    | ant source method => simp [sameAs, RequestKey.ant]
    | regex hr =>
      obtain ⟨r, rfl⟩ := exists_of_regex? hr
      simp [sameAs]

end RequestKey
end BrokerGuard
