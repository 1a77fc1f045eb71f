import BrokerGuard.Csrf.Token
import BrokerGuard.Proofs.Bindings
/-!
# Attributes — what is read after a write

A value put under a name is read under this name and changes nothing else (`SessionAttributes.get?_insert_self`,
`SessionAttributes.get?_insert_of_ne`), and likewise a name that is taken out.  Both keep the names in order
(`SessionAttributes.Ordered`), and both keep two maps alike that agree on every name but one (`SessionAttributes.AgreesBut`).
A token is read back from its stored form (`CsrfToken.ofJson?_toJson`).
-/
namespace BrokerGuard

theorem Json.lookup_putMember_self (name : String) (value : Json) :
    ∀ members : List (String × Json), (putMember name value members).lookup name = some value
  | [] => by rw [putMember, List.lookup_cons_self]
  | (k, old) :: rest => by
    unfold putMember
    by_cases hk : name = k
    · rw [if_pos hk, hk, List.lookup_cons_self]
    · rw [if_neg hk]
      by_cases hlt : name < k
      · rw [if_pos hlt, List.lookup_cons_self]
      · have hbeq : (name == k) = false := beq_false_of_ne hk
        rw [if_neg hlt, List.lookup_cons, hbeq]
        exact lookup_putMember_self name value rest

theorem Json.lookup_putMember_of_ne {name other : String} (h : other ≠ name) (value : Json) :
    ∀ members : List (String × Json), (putMember name value members).lookup other = members.lookup other
  | [] => by rw [putMember, List.lookup_cons, beq_false_of_ne h]
  | (k, old) :: rest => by
    have hskip (tail : List (String × Json)) : ((name, value) :: tail).lookup other = tail.lookup other := by
      rw [List.lookup_cons, beq_false_of_ne h]
    unfold putMember
    by_cases hk : name = k
    · subst hk
      rw [if_pos rfl, List.lookup_cons, List.lookup_cons, beq_false_of_ne h]
    · rw [if_neg hk]
      by_cases hlt : name < k
      · rw [if_pos hlt, hskip]
      · rw [if_neg hlt, List.lookup_cons, List.lookup_cons, lookup_putMember_of_ne h value rest]

/-! ## The order of the names -/

theorem Json.mem_keys_putMember {name k : String} {value : Json} :
    ∀ {members : List (String × Json)}, k ∈ (putMember name value members).map Prod.fst →
      k = name ∨ k ∈ members.map Prod.fst
  | [], h => .inl (List.mem_singleton.1 h)
  | (first, old) :: rest, h => by
    unfold putMember at h
    split at h
    · exact .inr h
    · split at h
      · exact List.mem_cons.1 h
      · rcases List.mem_cons.1 h with rfl | h
        · exact .inr List.mem_cons_self
        · exact (mem_keys_putMember h).imp_right (List.mem_cons_of_mem first)

theorem Json.pairwise_putMember (name : String) (value : Json) :
    ∀ {members : List (String × Json)}, (members.map Prod.fst).Pairwise (· < ·) →
      ((putMember name value members).map Prod.fst).Pairwise (· < ·)
  | [], _ => List.pairwise_singleton _ _
  | (first, old) :: rest, h => by
    obtain ⟨hfirst, hrest⟩ := List.pairwise_cons.1 h
    unfold putMember
    split
    · exact h
    · rename_i hne
      split
      · rename_i hlt
        refine List.pairwise_cons.2 ⟨fun k hk => ?_, h⟩
        rcases List.mem_cons.1 hk with rfl | hk
        · exact hlt
        · exact String.lt_trans hlt (hfirst k hk)
      · rename_i hge
        refine List.pairwise_cons.2 ⟨fun k hk => ?_, pairwise_putMember name value hrest⟩
        rcases mem_keys_putMember hk with rfl | hk
        · exact Classical.byContradiction fun hnot => hne (String.le_antisymm (String.not_lt.1 hnot) (String.not_lt.1 hge))
        · exact hfirst k hk

namespace SessionAttributes

variable {a b c : SessionAttributes} {name : String}

theorem get?_insert_self (a : SessionAttributes) (name : String) (value : Json) :
    (a.insert name value).get? name = some value :=
  Json.lookup_putMember_self name value a.members

theorem get?_insert_of_ne (a : SessionAttributes) {name other : String} (h : other ≠ name) (value : Json) :
    (a.insert name value).get? other = a.get? other :=
  Json.lookup_putMember_of_ne h value a.members

theorem get?_erase_self (a : SessionAttributes) (name : String) : (a.erase name).get? name = none :=
  Bindings.lookup_filter_self name a.members

theorem get?_erase_of_ne (a : SessionAttributes) {name other : String} (h : other ≠ name) :
    (a.erase name).get? other = a.get? other :=
  Bindings.lookup_filter_of_ne h a.members

/-- The names stand in ascending order, each once, as every map of attributes has them. -/
def Ordered (a : SessionAttributes) : Prop := a.names.Pairwise (· < ·)

theorem ordered_empty : Ordered {} := .nil

theorem Ordered.insert (h : a.Ordered) (name : String) (value : Json) : (a.insert name value).Ordered :=
  Json.pairwise_putMember name value h

theorem Ordered.erase (h : a.Ordered) (name : String) : (a.erase name).Ordered :=
  h.sublist (List.filter_sublist.map Prod.fst)

/-! ## Agreement but for one attribute -/

/-- Every name but the one has the same value in both, or in neither. -/
def AgreesBut (name : String) (a b : SessionAttributes) : Prop := ∀ other, other ≠ name → a.get? other = b.get? other

theorem AgreesBut.refl (name : String) (a : SessionAttributes) : AgreesBut name a a := fun _ _ => rfl

theorem agreesBut_insert (a : SessionAttributes) (name : String) (value : Json) : AgreesBut name a (a.insert name value) :=
  fun _ h => (get?_insert_of_ne a h value).symm

theorem AgreesBut.insert (h : AgreesBut name a b) (other : String) (value : Json) :
    AgreesBut name (a.insert other value) (b.insert other value) := by
  intro k hk
  by_cases hother : k = other
  · rw [hother, get?_insert_self, get?_insert_self]
  · rw [get?_insert_of_ne a hother, get?_insert_of_ne b hother, h k hk]

theorem AgreesBut.erase (h : AgreesBut name a b) (other : String) :
    AgreesBut name (a.erase other) (b.erase other) := by
  intro k hk
  by_cases hother : k = other
  · rw [hother, get?_erase_self, get?_erase_self]
  · rw [get?_erase_of_ne a hother, get?_erase_of_ne b hother, h k hk]

end SessionAttributes

/-- **A token is read back from its stored form**, whatever its texts. -/
theorem CsrfToken.ofJson?_toJson (t : CsrfToken) : CsrfToken.ofJson? t.toJson = some t := by
  rfl

end BrokerGuard
