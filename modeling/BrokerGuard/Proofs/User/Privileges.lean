import BrokerGuard.User
/-!
# Privileges — what a user is asked for and what the answer rests on

A user is asked for roles and authorities, one or several of them (`User.Check`).  What is asked for first loses one marker,
and is then looked up in the lists of the user (`User.hasRole_iff`, `User.hasAuthority_iff`); so a user who has the roles and
authorities of another one passes every check that the other one passes (`User.Within.passes`).
-/
namespace BrokerGuard

/-- The role, named with the marker. -/
def marked (role : String) : String := "ROLE_" ++ role

theorem isPrefixOf_marked (role : String) : roleMarker.isPrefixOf (marked role).toList = true := by
  rw [List.isPrefixOf_iff_prefix, marked, String.toList_append]
  exact List.prefix_append roleMarker role.toList

theorem isPrefixOf_roleMarker_iff {role : String} :
    roleMarker.isPrefixOf role.toList = true ↔ ∃ rest, role = marked rest := by
  constructor
  · intro h
    obtain ⟨rest, hrest⟩ := List.isPrefixOf_iff_prefix.1 h
    have htext : (marked (String.ofList rest)).toList = roleMarker ++ rest := by
      rw [marked, String.toList_append, String.toList_ofList (l := rest)]
      rfl
    exact ⟨String.ofList rest, String.toList_injective (hrest.symm.trans htext.symm)⟩
  · rintro ⟨rest, rfl⟩
    exact isPrefixOf_marked rest

@[simp] theorem roleName_marked (role : String) : roleName (marked role) = role := by
  unfold roleName
  rw [if_pos (isPrefixOf_marked role), marked, String.toList_append]
  have hdrop : ("ROLE_".toList ++ role.toList).drop roleMarker.length = role.toList := List.drop_left
  rw [hdrop, String.ofList_toList]

theorem roleName_of_unmarked {role : String} (h : ∀ rest, role ≠ marked rest) : roleName role = role := by
  unfold roleName
  refine if_neg fun hmarked => ?_
  obtain ⟨rest, hrest⟩ := isPrefixOf_roleMarker_iff.1 hmarked
  exact h rest hrest

namespace User

theorem hasRole_iff {u : User} {role : String} : u.hasRole role = true ↔ roleName role ∈ u.roles := by
  unfold hasRole
  exact List.contains_iff_mem

theorem hasAnyRole_iff {u : User} {roles : List String} :
    u.hasAnyRole roles = true ↔ ∃ role ∈ roles, u.hasRole role = true := by
  unfold hasAnyRole
  exact List.any_eq_true

theorem hasAuthority_iff {u : User} {authority : String} :
    u.hasAuthority authority = true ↔
      authority ∈ u.authorities ∨ (∃ role, authority = marked role) ∧ u.hasRole authority = true := by
  unfold hasAuthority
  rw [Bool.or_eq_true, Bool.and_eq_true, List.contains_iff_mem, isPrefixOf_roleMarker_iff]

theorem hasAnyAuthority_iff {u : User} {authorities : List String} :
    u.hasAnyAuthority authorities = true ↔ ∃ authority ∈ authorities, u.hasAuthority authority = true := by
  unfold hasAnyAuthority
  exact List.any_eq_true

/-- What a user can be asked for. -/
inductive Check where
  | role (role : String)
  | anyRole (roles : List String)
  | authority (authority : String)
  | anyAuthority (authorities : List String)

/-- The answer to a check. -/
def passes (u : User) : Check → Bool
  | .role role => u.hasRole role
  | .anyRole roles => u.hasAnyRole roles
  | .authority authority => u.hasAuthority authority
  | .anyAuthority authorities => u.hasAnyAuthority authorities

/-- Every role and every authority of the first user is one of the second. -/
structure Within (u u' : User) : Prop where
  roles : u.roles ⊆ u'.roles
  authorities : u.authorities ⊆ u'.authorities

namespace Within

variable {u u' : User}

theorem hasRole (h : u.Within u') {role : String} (hrole : u.hasRole role = true) : u'.hasRole role = true :=
  hasRole_iff.2 (h.roles (hasRole_iff.1 hrole))

theorem hasAuthority (h : u.Within u') {authority : String} (hauthority : u.hasAuthority authority = true) :
    u'.hasAuthority authority = true := by
  rw [hasAuthority_iff] at hauthority ⊢
  rcases hauthority with hlisted | ⟨hmarked, hrole⟩
  · exact .inl (h.authorities hlisted)
  · exact .inr ⟨hmarked, h.hasRole hrole⟩

/-- **Whoever has more passes more.** -/
theorem passes (h : u.Within u') (check : Check) (hpasses : u.passes check = true) : u'.passes check = true := by
  cases check with
  | role role => exact h.hasRole hpasses
  | anyRole roles =>
    obtain ⟨role, hmem, hrole⟩ := hasAnyRole_iff.1 hpasses
    exact hasAnyRole_iff.2 ⟨role, hmem, h.hasRole hrole⟩
  | authority authority => exact h.hasAuthority hpasses
  | anyAuthority authorities =>
    obtain ⟨authority, hmem, hauthority⟩ := hasAnyAuthority_iff.1 hpasses
    exact hasAnyAuthority_iff.2 ⟨authority, hmem, h.hasAuthority hauthority⟩

end Within

end User
end BrokerGuard
