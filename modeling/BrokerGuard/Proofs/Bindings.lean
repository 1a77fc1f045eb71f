import Mathlib.Data.List.Induction
/-!
# Bindings — what a keyed list holds after a history of bindings

Rule maps and handler mappings bind their keys in the same way: a key that is there keeps its place and takes the new
value, and a new key comes last (`bindIn`).  After a history of bindings (`bindAll`) the keys are distinct and stand in the
order in which they first came (`keys_bindAll`), and a key has the value that was bound to it last (`mem_bindAll_iff`).
Looking a key up sees only what was done to this key (`lookup_bindIn_of_ne`, `lookup_filter_of_ne`).
-/
namespace BrokerGuard
namespace Bindings

variable {α β γ δ : Type}

/-- The history binds the key to the value, and afterwards does not bind it again. -/
def Latest (history : List (α × β)) (key : α) (value : β) : Prop :=
  ∃ before after, history = before ++ (key, value) :: after ∧ key ∉ after.map Prod.fst

theorem not_latest_nil {key : α} {value : β} : ¬ Latest [] key value := by
  rintro ⟨before, after, h, -⟩
  simp at h

theorem Latest.mem {history : List (α × β)} {key : α} {value : β} (h : Latest history key value) :
    (key, value) ∈ history := by
  obtain ⟨before, after, rfl, -⟩ := h
  simp

theorem latest_concat_self (history : List (α × β)) (key : α) (value : β) :
    Latest (history ++ [(key, value)]) key value := ⟨history, [], rfl, List.not_mem_nil⟩

theorem latest_concat_iff {history : List (α × β)} {last : α × β} {key : α} {value : β} :
    Latest (history ++ [last]) key value ↔
      (key = last.1 ∧ value = last.2) ∨ (key ≠ last.1 ∧ Latest history key value) := by
  constructor
  · rintro ⟨before, after, h, hafter⟩
    rcases List.eq_nil_or_concat after with rfl | ⟨after, b, rfl⟩
    · obtain ⟨-, hlast⟩ := List.append_inj' h rfl
      obtain rfl := List.head_eq_of_cons_eq hlast
      exact .inl ⟨rfl, rfl⟩
    · have hsplit : history ++ [last] = (before ++ (key, value) :: after) ++ [b] := by simp [h]
      obtain ⟨rfl, hlast⟩ := List.append_inj' hsplit rfl
      obtain rfl := List.head_eq_of_cons_eq hlast
      simp only [List.concat_eq_append, List.map_append, List.mem_append, not_or] at hafter
      exact .inr ⟨by simpa using hafter.2, before, after, rfl, hafter.1⟩
  · rintro (⟨rfl, rfl⟩ | ⟨hne, before, after, rfl, hafter⟩)
    · exact latest_concat_self history last.1 last.2
    · exact ⟨before, after ++ [last], by simp, by simpa using ⟨by simpa using hafter, hne⟩⟩

theorem modify_append (before after : List α) (entry : α) (f : α → α) :
    (before ++ entry :: after).modify before.length f = before ++ f entry :: after := by
  rw [List.modify_eq_take_cons_drop (by simp)]
  simp

/-! ## Binding one key after the other -/

variable [DecidableEq α]

/-- Replaces the value of the key in place, or adds the key at the end. -/
def bindIn (key : α) (value : β) : List (α × β) → List (α × β)
  | [] => [(key, value)]
  | (k, old) :: rest => if k = key then (k, value) :: rest else (k, old) :: bindIn key value rest

/-- What a history of bindings comes to. -/
def bindAll (history : List (α × β)) : List (α × β) := history.foldl (fun entries b => bindIn b.1 b.2 entries) []

theorem bindAll_concat (history : List (α × β)) (last : α × β) :
    bindAll (history ++ [last]) = bindIn last.1 last.2 (bindAll history) := by
  unfold bindAll
  rw [List.foldl_append]
  rfl

theorem keys_bindIn (key : α) (value : β) : ∀ entries : List (α × β),
    (bindIn key value entries).map Prod.fst =
      if key ∈ entries.map Prod.fst then entries.map Prod.fst else entries.map Prod.fst ++ [key]
  | [] => rfl
  | (k, old) :: rest => by
    unfold bindIn
    by_cases hk : k = key
    · simp [hk]
    · have ih := keys_bindIn key value rest
      by_cases hmem : key ∈ rest.map Prod.fst
      · rw [if_pos hmem] at ih
        simp [hk, ih, hmem]
      · rw [if_neg hmem] at ih
        simp [hk, ih, hmem, Ne.symm hk]

/-- **The keys stand in the order in which they first came**, each once. -/
theorem keys_bindAll (history : List (α × β)) :
    (bindAll history).map Prod.fst = (history.map Prod.fst).eraseDups := by
  induction history using List.reverseRecOn with
  | nil => rfl
  | append_singleton history last ih =>
    rw [bindAll_concat, keys_bindIn, ih, List.map_append, List.eraseDups_append]
    by_cases hmem : last.1 ∈ history.map Prod.fst
    · rw [if_pos (List.mem_eraseDups.2 hmem)]
      simp [List.removeAll, hmem]
    · have hnew : (List.map Prod.fst [last]).removeAll (history.map Prod.fst) = [last.1] := by
        simp [List.removeAll, hmem]
      rw [if_neg fun h => hmem (List.mem_eraseDups.1 h), hnew]
      rfl

theorem nodup_keys_bindIn {entries : List (α × β)} (h : (entries.map Prod.fst).Nodup) (key : α) (value : β) :
    ((bindIn key value entries).map Prod.fst).Nodup := by
  rw [keys_bindIn]
  split
  · exact h
  · rename_i hnew
    have hlast : [key].Nodup := by simp
    refine List.nodup_append.2 ⟨h, hlast, fun a ha b hb hab => hnew ?_⟩
    rw [← List.mem_singleton.1 hb, ← hab]
    exact ha

theorem nodup_keys_bindAll (history : List (α × β)) : ((bindAll history).map Prod.fst).Nodup := by
  induction history using List.reverseRecOn with
  | nil => exact List.nodup_nil
  | append_singleton history last ih =>
    rw [bindAll_concat]
    exact nodup_keys_bindIn ih _ _

theorem mem_bindIn_iff (key k : α) (value v : β) : ∀ {entries : List (α × β)}, (entries.map Prod.fst).Nodup →
    ((k, v) ∈ bindIn key value entries ↔ (k = key ∧ v = value) ∨ (k ≠ key ∧ (k, v) ∈ entries))
  | [], _ => by simp [bindIn]
  | (k', old) :: rest, hnodup => by
    rw [List.map_cons, List.nodup_cons] at hnodup
    unfold bindIn
    by_cases hk' : k' = key
    · subst hk'
      rw [if_pos rfl]
      have hrest : (k, v) ∈ rest → k ≠ k' := fun hmem heq =>
        hnodup.1 (List.mem_map.2 ⟨_, hmem, heq⟩)
      simp only [List.mem_cons, Prod.mk.injEq]
      tauto
    · have ih := mem_bindIn_iff key k value v hnodup.2
      rw [if_neg hk', List.mem_cons, ih, List.mem_cons, Prod.mk.injEq]
      have hne : k = k' → k ≠ key := fun heq => heq ▸ hk'
      tauto

/-- **A key has the value that was bound to it last.** -/
theorem mem_bindAll_iff {history : List (α × β)} {key : α} {value : β} :
    (key, value) ∈ bindAll history ↔ Latest history key value := by
  induction history using List.reverseRecOn with
  | nil => exact ⟨fun h => absurd h List.not_mem_nil, fun h => absurd h not_latest_nil⟩
  | append_singleton history last ih =>
    rw [bindAll_concat, mem_bindIn_iff _ _ _ _ (nodup_keys_bindAll history), latest_concat_iff, ih]

/-- Entries in another form are bound in that form, as long as the form tells the keys apart. -/
theorem bindIn_map [DecidableEq γ] {form : α → γ} (hform : form.Injective) (f : β → δ) (key : α) (value : β) :
    ∀ entries : List (α × β), bindIn (form key) (f value) (entries.map (Prod.map form f)) =
      (bindIn key value entries).map (Prod.map form f)
  | [] => rfl
  | (k, old) :: rest => by
    have ih := bindIn_map hform f key value rest
    by_cases hk : k = key
    · simp [bindIn, hk]
    · have hne : form k ≠ form key := fun h => hk (hform h)
      simp [bindIn, hk, hne, ih]

/-! ## Looking a key up -/

section Lookup

variable [BEq α] [LawfulBEq α]

theorem lookup_bindIn_self (key : α) (value : β) :
    ∀ entries : List (α × β), (bindIn key value entries).lookup key = some value
  | [] => by rw [bindIn, List.lookup_cons_self]
  | (k, old) :: rest => by
    unfold bindIn
    by_cases hk : k = key
    · rw [if_pos hk, hk, List.lookup_cons_self]
    · rw [if_neg hk, List.lookup_cons, beq_false_of_ne (Ne.symm hk)]
      exact lookup_bindIn_self key value rest

theorem lookup_bindIn_of_ne {key other : α} (h : other ≠ key) (value : β) :
    ∀ entries : List (α × β), (bindIn key value entries).lookup other = entries.lookup other
  | [] => by rw [bindIn, List.lookup_cons, beq_false_of_ne h]
  | (k, old) :: rest => by
    unfold bindIn
    by_cases hk : k = key
    · rw [if_pos hk, List.lookup_cons, List.lookup_cons, hk, beq_false_of_ne h]
    · rw [if_neg hk, List.lookup_cons, List.lookup_cons, lookup_bindIn_of_ne h value rest]

omit [DecidableEq α] in
theorem lookup_filter_self (key : α) (entries : List (α × β)) : (entries.filter (·.1 != key)).lookup key = none := by
  refine List.lookup_eq_none_iff.2 fun entry hentry => ?_
  rw [bne_comm]
  exact (List.mem_filter.1 hentry).2

omit [DecidableEq α] in
theorem lookup_filter_of_ne {key other : α} (h : other ≠ key) :
    ∀ entries : List (α × β), (entries.filter (·.1 != key)).lookup other = entries.lookup other
  | [] => rfl
  | (k, old) :: rest => by
    have ih := lookup_filter_of_ne h rest
    by_cases hk : k = key
    · have hdrop : ¬ ((k, old).1 != key) = true := fun hne => bne_iff_ne.1 hne hk
      rw [List.filter_cons, if_neg hdrop, List.lookup_cons, beq_false_of_ne (hk ▸ h), ih]
    · have hkeep : ((k, old).1 != key) = true := bne_iff_ne.2 hk
      rw [List.filter_cons, if_pos hkeep, List.lookup_cons, List.lookup_cons, ih]

omit [DecidableEq α] in
theorem mem_keys_iff_lookup {key : α} {entries : List (α × β)} :
    key ∈ entries.map Prod.fst ↔ ∃ value, entries.lookup key = some value := by
  constructor
  · intro hmem
    refine Option.ne_none_iff_exists'.1 fun hnone => ?_
    obtain ⟨entry, hentry, rfl⟩ := List.mem_map.1 hmem
    exact bne_iff_ne.1 (List.lookup_eq_none_iff.1 hnone entry hentry) rfl
  · rintro ⟨value, hvalue⟩
    obtain ⟨before, after, rfl, -⟩ := List.lookup_eq_some_iff.1 hvalue
    simp

end Lookup

end Bindings
end BrokerGuard
