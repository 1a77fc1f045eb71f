import BrokerGuard.Components
import BrokerGuard.Proofs.Bindings
/-!
# Entries — looking up what a context holds

Registering is binding (`TypedContext.registerIn_eq_bindIn`), so the facts on bindings say what is found under a name after
a registration or a removal.  A lookup by name and kind is decided by what is found under the name
(`TypedContext.get_cases`).
-/
namespace BrokerGuard
namespace TypedContext

variable {κ : Type} {Carrier : κ → Type}

theorem registerIn_eq_bindIn (name : String) (component : Sigma Carrier) :
    ∀ entries : List (String × Sigma Carrier), registerIn name component entries = Bindings.bindIn name component entries
  | [] => rfl
  | (n, old) :: rest => by
    unfold registerIn Bindings.bindIn
    rw [registerIn_eq_bindIn name component rest]

theorem registerIn_append {name : String} (component : Sigma Carrier) {old : Sigma Carrier}
    {after : List (String × Sigma Carrier)} :
    ∀ {before : List (String × Sigma Carrier)}, (∀ entry ∈ before, entry.1 ≠ name) →
      registerIn name component (before ++ (name, old) :: after) = before ++ (name, component) :: after
  | [], _ => if_pos rfl
  | entry :: before, h => by
    rw [List.cons_append, registerIn, if_neg (h entry List.mem_cons_self),
      registerIn_append component fun e he => h e (List.mem_cons_of_mem entry he)]
    rfl

theorem registerIn_of_forall_ne {name : String} (component : Sigma Carrier) :
    ∀ {entries : List (String × Sigma Carrier)}, (∀ entry ∈ entries, entry.1 ≠ name) →
      registerIn name component entries = entries ++ [(name, component)]
  | [], _ => rfl
  | entry :: rest, h => by
    rw [registerIn, if_neg (h entry List.mem_cons_self),
      registerIn_of_forall_ne component fun e he => h e (List.mem_cons_of_mem entry he)]
    rfl

/-! ## What is found -/

theorem find?_register_self (c : TypedContext κ Carrier) (name : String) (kind : κ) (component : Carrier kind) :
    (c.register name kind component).find? name = some ⟨kind, component⟩ := by
  rw [find?, register, registerIn_eq_bindIn, Bindings.lookup_bindIn_self]

theorem find?_register_of_ne (c : TypedContext κ Carrier) {name other : String} (h : other ≠ name) (kind : κ)
    (component : Carrier kind) : (c.register name kind component).find? other = c.find? other := by
  rw [find?, register, registerIn_eq_bindIn, Bindings.lookup_bindIn_of_ne h, find?]

/-- Where the component of a name stands: behind entries of other names. -/
theorem exists_split_of_find? {c : TypedContext κ Carrier} {name : String} {found : Sigma Carrier}
    (h : c.find? name = some found) :
    ∃ before after, c.entries = before ++ (name, found) :: after ∧ ∀ entry ∈ before, entry.1 ≠ name := by
  obtain ⟨before, after, hentries, hbefore⟩ := List.lookup_eq_some_iff.1 h
  exact ⟨before, after, hentries, fun entry hentry => Ne.symm (bne_iff_ne.1 (hbefore entry hentry))⟩

theorem forall_ne_of_find? {c : TypedContext κ Carrier} {name : String} (h : c.find? name = none) :
    ∀ entry ∈ c.entries, entry.1 ≠ name :=
  fun entry hentry => Ne.symm (bne_iff_ne.1 (List.lookup_eq_none_iff.1 h entry hentry))

theorem mem_names_iff {c : TypedContext κ Carrier} {name : String} : name ∈ c.names ↔ ∃ found, c.find? name = some found :=
  Bindings.mem_keys_iff_lookup

theorem mem_names_iff_contains {c : TypedContext κ Carrier} {name : String} : name ∈ c.names ↔ c.contains name = true :=
  mem_names_iff.trans Option.isSome_iff_exists.symm

theorem names_register (c : TypedContext κ Carrier) (name : String) (kind : κ) (component : Carrier kind) :
    (c.register name kind component).names = if name ∈ c.names then c.names else c.names ++ [name] := by
  rw [names, register, registerIn_eq_bindIn, Bindings.keys_bindIn]
  rfl

/-! ## Lookups by name and kind -/

variable [DecidableEq κ]

theorem get_of_find? {c : TypedContext κ Carrier} {name : String} {kind : κ} {component : Carrier kind}
    (h : c.find? name = some ⟨kind, component⟩) : c.get name kind = .ok component := by
  unfold get
  rw [h]
  exact dif_pos rfl

theorem get_register_self (c : TypedContext κ Carrier) (name : String) (kind : κ) (component : Carrier kind) :
    (c.register name kind component).get name kind = .ok component :=
  get_of_find? (find?_register_self c name kind component)

theorem get_cases (c : TypedContext κ Carrier) (name : String) (kind : κ) :
    (c.find? name = none ∧ c.get name kind = .error (.unregistered name)) ∨
      (∃ other, c.find? name = some other ∧ other.1 ≠ kind ∧ c.get name kind = .error (.otherKind name kind)) ∨
      ∃ component, c.find? name = some ⟨kind, component⟩ ∧ c.get name kind = .ok component := by
  cases hfind : c.find? name with
  | none =>
    refine .inl ⟨rfl, ?_⟩
    unfold get
    rw [hfind]
  | some found =>
    obtain ⟨other, component⟩ := found
    by_cases hkind : other = kind
    · subst hkind
      exact .inr (.inr ⟨component, rfl, get_of_find? hfind⟩)
    · refine .inr (.inl ⟨_, rfl, hkind, ?_⟩)
      unfold get
      rw [hfind]
      exact dif_neg hkind

end TypedContext
end BrokerGuard
