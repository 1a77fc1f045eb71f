import BrokerGuard.Proofs.Endpoint.Mapping
import BrokerGuard.Proofs.Pattern.Ant
/-!
# Reachable endpoints — every registered path has a handler

A path is registered as text, and looked up as a pattern.  That this fits rests on two facts about patterns, whatever stands in
them: a pattern accepts its own text (`Ant.accepts_source`), and with `/**` behind it every longer path, too
(`Ant.accepts_of_parts_concat`).  Slashes at the end of a path do not count, so it does no harm that a SockJS endpoint is mapped
without them.

`HandlerMapping.ofEndpoints_reachable` says, for every sequence of endpoints, which patterns the mapping has, which handler each
of them has, which handler answers a path, and that every registered path is answered.
-/
namespace BrokerGuard

namespace Pattern

/-! ## Splits -/

section Splits

variable {α β : Type} {IsStar : α → Prop}

theorem Splits.append {Fits : α → β → Prop} {pattern pattern' : List α} {text text' : List β}
    (h : Splits IsStar Fits pattern text) (h' : Splits IsStar Fits pattern' text') :
    Splits IsStar Fits (pattern ++ pattern') (text ++ text') := by
  obtain ⟨runs, rfl, hruns⟩ := h
  obtain ⟨runs', rfl, hruns'⟩ := h'
  exact ⟨runs ++ runs', List.flatten_append, List.rel_append hruns hruns'⟩

theorem splits_star {Fits : α → β → Prop} {star : α} (hstar : IsStar star) (text : List β) :
    Splits IsStar Fits [star] text :=
  (splits_star_iff hstar).2 ⟨[], List.nil_suffix, splits_nil_iff.2 rfl⟩

/-- A pattern takes itself when each of its items but the stars does. -/
theorem splits_self {Fits : α → α → Prop} {pattern : List α} (h : ∀ item ∈ pattern, ¬ IsStar item → Fits item item) :
    Splits IsStar Fits pattern pattern := by
  induction pattern with
  | nil => exact splits_nil_iff.2 rfl
  | cons item items ih =>
    have hrest := ih fun i hi => h i (List.mem_cons_of_mem item hi)
    refine splits_cons_iff.2 ⟨[item], items, rfl, ?_, hrest⟩
    by_cases hstar : IsStar item
    · exact .inl hstar
    · exact .inr ⟨item, rfl, h item List.mem_cons_self hstar⟩

end Splits

theorem partFits_self (caseSensitive : Bool) (item : List Char) : PartFits caseSensitive item item := by
  by_cases hbraces : InBraces item
  · exact .braces hbraces
  · by_cases hwild : '*' ∈ item ∨ '?' ∈ item
    · exact .wildcard hbraces hwild (splits_self fun _ _ _ => .inr rfl)
    · obtain ⟨hstar, hquestion⟩ := not_or.1 hwild
      refine .literal hbraces hstar hquestion ?_
      unfold EqualIn
      split <;> rfl

/-! ## Parts -/

theorem parts_of_toList {separator : Char} {whole front back : String}
    (h : whole.toList = front.toList ++ separator :: back.toList) :
    parts separator whole = parts separator front ++ parts separator back := by
  rw [parts_eq_filter, parts_eq_filter, parts_eq_filter, h, List.splitOn_append_cons_self, List.filter_append]

theorem parts_trimSlashes (cs : List Char) :
    parts '/' (String.ofList (OriginPolicy.trimSlashes cs)) = parts '/' (String.ofList cs) := by
  induction cs using List.reverseRecOn with
  | nil => rfl
  | append_singleton cs c ih =>
    by_cases hc : c = '/'
    · subst hc
      have htrim : OriginPolicy.trimSlashes (cs ++ ['/']) = OriginPolicy.trimSlashes cs := by
        simp [OriginPolicy.trimSlashes]
      have hsplit : (String.ofList (cs ++ ['/'])).toList = (String.ofList cs).toList ++ '/' :: "".toList := by simp
      rw [htrim, ih, parts_of_toList hsplit, show parts '/' "" = [] from rfl, List.append_nil]
    · have htrim : OriginPolicy.trimSlashes (cs ++ [c]) = cs ++ [c] := by simp [OriginPolicy.trimSlashes, hc]
      rw [htrim]

namespace Ant

theorem splits_parts_self (p : Ant) :
    Splits (· = ['*', '*']) (PartFits p.caseSensitive) (parts p.separator p.source) (parts p.separator p.source) :=
  splits_self fun item _ _ => partFits_self p.caseSensitive item

/-- **A pattern accepts its own text**, whatever wildcards stand in it. -/
theorem accepts_source (p : Ant) : p.accepts p.source = true := (accepts_iff_parts p p.source).2 p.splits_parts_self

/-- A pattern that ends with `**` accepts what begins with the parts before it. -/
theorem accepts_of_parts_concat {separator : Char} {source path : String} {items rest : List (List Char)}
    (hsource : parts separator source = items ++ [['*', '*']]) (hpath : parts separator path = items ++ rest) :
    (withSeparator source separator).accepts path = true := by
  rw [accepts_iff_parts]
  dsimp only [withSeparator]
  rw [hsource, hpath]
  have hitems : Splits (· = ['*', '*']) (PartFits true) items items := splits_self fun item _ _ => partFits_self true item
  have hrest : Splits (· = ['*', '*']) (PartFits true) [['*', '*']] rest :=
    @splits_star _ _ (· = ['*', '*']) _ ['*', '*'] rfl rest
  exact hitems.append hrest

end Ant
end Pattern

variable {ω : Type}

namespace Endpoint

theorem parts_pattern_of_sockJs {e : Endpoint ω} (h : e.sockJs = true) (path : String) :
    Pattern.parts '/' (e.pattern path) = Pattern.parts '/' path ++ [['*', '*']] := by
  have hsplit : (e.pattern path).toList =
      (String.ofList (OriginPolicy.trimSlashes path.toList)).toList ++ '/' :: "**".toList := by
    rw [pattern, if_pos h, String.toList_ofList, @String.toList_ofList (OriginPolicy.trimSlashes path.toList)]
    rfl
  have hstars : Pattern.parts '/' "**" = [['*', '*']] := by decide
  rw [Pattern.parts_of_toList hsplit, Pattern.parts_trimSlashes, String.ofList_toList, hstars]

/-- The pattern of a path accepts the path. -/
theorem accepts_path (e : Endpoint ω) (path : String) : (Pattern.Ant.ofSource (e.pattern path)).accepts path = true := by
  by_cases h : e.sockJs = true
  · have hpath : Pattern.parts '/' path = Pattern.parts '/' path ++ [] := (List.append_nil _).symm
    exact Pattern.Ant.accepts_of_parts_concat (parts_pattern_of_sockJs h path) hpath
  · rw [pattern, if_neg h]
    exact Pattern.Ant.accepts_source (.ofSource path)

/-- The pattern of a path of a SockJS endpoint accepts everything under the path. -/
theorem accepts_under_path {e : Endpoint ω} (h : e.sockJs = true) (path tail : String) :
    (Pattern.Ant.ofSource (e.pattern path)).accepts (String.ofList (OriginPolicy.trimSlashes path.toList) ++ "/" ++ tail) =
      true := by
  have hsplit : (String.ofList (OriginPolicy.trimSlashes path.toList) ++ "/" ++ tail).toList =
      (String.ofList (OriginPolicy.trimSlashes path.toList)).toList ++ '/' :: tail.toList := by
    rw [String.toList_append, String.toList_append, List.append_assoc]
    rfl
  have hparts := Pattern.parts_of_toList hsplit
  rw [Pattern.parts_trimSlashes, String.ofList_toList] at hparts
  exact Pattern.Ant.accepts_of_parts_concat (parts_pattern_of_sockJs h path) hparts

end Endpoint

namespace HandlerMapping

open Bindings (Latest bindAll)

/-- The handler of a path is that of the first entry whose pattern accepts the path. -/
theorem handler?_eq_some_iff {m : HandlerMapping ω} {path : String} {handler : EndpointHandler ω} :
    m.handler? path = some handler ↔ ∃ before pattern after, m.entries = before ++ (pattern, handler) :: after ∧
      pattern.accepts path = true ∧ ∀ entry ∈ before, ¬ entry.1.accepts path = true := by
  unfold handler?
  rw [Option.map_eq_some_iff]
  constructor
  · rintro ⟨⟨pattern, handler⟩, hfind, rfl⟩
    obtain ⟨haccepts, before, after, hentries, hbefore⟩ := List.find?_eq_some_iff_append.1 hfind
    refine ⟨before, pattern, after, hentries, haccepts, fun entry hentry => ?_⟩
    rw [Bool.not_eq_true]
    exact Bool.not_eq_true' _ ▸ hbefore entry hentry
  · rintro ⟨before, pattern, after, hentries, haccepts, hbefore⟩
    refine ⟨(pattern, handler), List.find?_eq_some_iff_append.2 ⟨haccepts, before, after, hentries, fun entry hentry => ?_⟩, rfl⟩
    rw [Bool.not_eq_true', ← Bool.not_eq_true]
    exact hbefore entry hentry

theorem exists_handler_of_accepts {m : HandlerMapping ω} {path : String} {entry : Pattern.Ant × EndpointHandler ω}
    (hentry : entry ∈ m.entries) (haccepts : entry.1.accepts path = true) : ∃ handler, m.handler? path = some handler := by
  have hfound : (m.entries.find? fun e => e.1.accepts path).isSome = true := List.find?_isSome.2 ⟨entry, hentry, haccepts⟩
  obtain ⟨first, hfirst⟩ := Option.isSome_iff_exists.1 hfound
  exact ⟨first.2, by rw [handler?, hfirst]; rfl⟩

theorem patterns_ofEndpoints (endpoints : List (Endpoint ω)) :
    (ofEndpoints endpoints).patterns = (bindAll (Endpoint.registrations endpoints)).map Prod.fst := by
  rw [patterns, entries_ofEndpoints, List.map_map]
  rfl

theorem mem_entries_ofEndpoints_iff {endpoints : List (Endpoint ω)} {entry : Pattern.Ant × EndpointHandler ω} :
    entry ∈ (ofEndpoints endpoints).entries ↔
      ∃ pattern e, Latest (Endpoint.registrations endpoints) pattern e ∧ entry = (.ofSource pattern, e.handler) := by
  rw [entries_ofEndpoints, List.mem_map]
  constructor
  · rintro ⟨⟨pattern, e⟩, hbound, rfl⟩
    exact ⟨pattern, e, Bindings.mem_bindAll_iff.1 hbound, rfl⟩
  · rintro ⟨pattern, e, hlatest, rfl⟩
    exact ⟨(pattern, e), Bindings.mem_bindAll_iff.2 hlatest, rfl⟩

/-- Every pattern that an endpoint comes to is in the mapping. -/
theorem exists_mem_entries {endpoints : List (Endpoint ω)} {e : Endpoint ω} (he : e ∈ endpoints) {path : String}
    (hpath : path ∈ e.paths) : ∃ handler, (.ofSource (e.pattern path), handler) ∈ (ofEndpoints endpoints).entries := by
  have hregistered : (e.pattern path, e) ∈ Endpoint.registrations endpoints :=
    List.mem_flatMap.2 ⟨e, he, List.mem_map.2 ⟨path, hpath, rfl⟩⟩
  have hkey : e.pattern path ∈ (bindAll (Endpoint.registrations endpoints)).map Prod.fst := by
    rw [Bindings.keys_bindAll, List.mem_eraseDups]
    exact List.mem_map.2 ⟨_, hregistered, rfl⟩
  obtain ⟨⟨pattern, latest⟩, hbound, rfl⟩ := List.mem_map.1 hkey
  rw [entries_ofEndpoints]
  exact ⟨latest.handler, List.mem_map.2 ⟨_, hbound, rfl⟩⟩

/-- **Every registered endpoint is reachable.**  For every sequence of endpoints:

* the patterns of the mapping are those of the registrations, each once and in the order in which they first came;
* a pattern has the handler of the endpoint that registered it last;
* a path has the handler of the first entry whose pattern accepts it;
* every path of an endpoint has a handler, and if the endpoint is a SockJS endpoint, then so has everything under the path. -/
theorem ofEndpoints_reachable (endpoints : List (Endpoint ω)) :
    ((ofEndpoints endpoints).patterns.Nodup ∧
      (ofEndpoints endpoints).patterns = ((Endpoint.registrations endpoints).map Prod.fst).eraseDups) ∧
    (∀ entry, entry ∈ (ofEndpoints endpoints).entries ↔
      ∃ pattern e, Latest (Endpoint.registrations endpoints) pattern e ∧ entry = (.ofSource pattern, e.handler)) ∧
    (∀ path handler, (ofEndpoints endpoints).handler? path = some handler ↔
      ∃ before pattern after, (ofEndpoints endpoints).entries = before ++ (pattern, handler) :: after ∧
        pattern.accepts path = true ∧ ∀ entry ∈ before, ¬ entry.1.accepts path = true) ∧
    ∀ e ∈ endpoints, ∀ path ∈ e.paths,
      (∃ handler, (ofEndpoints endpoints).handler? path = some handler) ∧
      (e.sockJs = true → ∀ tail : String, ∃ handler, (ofEndpoints endpoints).handler?
        (String.ofList (OriginPolicy.trimSlashes path.toList) ++ "/" ++ tail) = some handler) := by
  refine ⟨⟨?_, ?_⟩, fun _ => mem_entries_ofEndpoints_iff, fun _ _ => handler?_eq_some_iff, fun e he path hpath => ?_⟩
  · rw [patterns_ofEndpoints]
    exact Bindings.nodup_keys_bindAll _
  · rw [patterns_ofEndpoints, Bindings.keys_bindAll]
  · obtain ⟨handler, hentry⟩ := exists_mem_entries he hpath
    refine ⟨exists_handler_of_accepts hentry (e.accepts_path path), fun hsockJs tail => ?_⟩
    exact exists_handler_of_accepts hentry (Endpoint.accepts_under_path hsockJs path tail)

end HandlerMapping
end BrokerGuard
