import BrokerGuard.Proofs.User.Building
/-!
# Role names — the marker is optional once

A role may be named with or without its marker, when it is added and when it is asked for.  One marker is taken off each
time, and one only: a name with two markers is the name of another role, whose name has one.  `marker_optional_once` says
what this comes to, for all users and in particular for those that were built in steps; the marker is not optional in front
of every name (`not_markerOptional_built`).
-/
namespace BrokerGuard
namespace User

/-- It does not matter whether the marker is put in front of a name, and the user has the roles that are listed. -/
structure MarkerOptional (u : User) : Prop where
  asked : ∀ role, u.hasRole role = u.hasRole (marked role)
  listed : ∀ role ∈ u.roles, u.hasRole role = true

section

variable {u : User} {role rest : String}

theorem hasRole_marked_iff : u.hasRole (marked role) = true ↔ role ∈ u.roles := by
  rw [hasRole_iff, roleName_marked]

theorem hasRole_of_unmarked (h : ∀ rest, role ≠ marked rest) : u.hasRole role = u.hasRole (marked role) := by
  rw [Bool.eq_iff_iff, hasRole_marked_iff, hasRole_iff, roleName_of_unmarked h]

/-- One more marker changes nothing exactly when both names are listed, or neither is. -/
theorem hasRole_marked_eq_iff :
    u.hasRole (marked rest) = u.hasRole (marked (marked rest)) ↔ (rest ∈ u.roles ↔ marked rest ∈ u.roles) := by
  rw [Bool.eq_iff_iff, hasRole_marked_iff, hasRole_marked_iff]

/-- A name is stored with a marker only if it was given with two. -/
theorem eq_marked_of_roleName (h : roleName role = marked rest) : role = marked (marked rest) := by
  by_cases hmarked : ∃ inner, role = marked inner
  · obtain ⟨inner, rfl⟩ := hmarked
    rw [roleName_marked] at h
    rw [h]
  · have hunmarked : ∀ inner, role ≠ marked inner := not_exists.1 hmarked
    rw [roleName_of_unmarked hunmarked] at h
    exact absurd h (hunmarked rest)

theorem exists_given_of_mem {name : String} {steps : List Addition} (h : role ∈ ((named name).addAll steps).roles) :
    ∃ given ∈ givenRoles steps, roleName given = role := by
  rw [addAll_eq] at h
  have hfresh : role ∈ fresh [] ((givenRoles steps).map roleName) := h
  exact List.mem_map.1 (mem_fresh_iff.1 hfresh).1

end

/-- What holds of users that were built in steps, besides what holds of all. -/
structure BuiltOnce (steps : List Addition) (u : User) : Prop where
  asked : ∀ rest, u.hasRole (marked rest) = u.hasRole (marked (marked rest)) ↔ (rest ∈ u.roles ↔ marked rest ∈ u.roles)
  listed : ∀ rest, marked rest ∈ u.roles → (u.hasRole (marked rest) = true ↔ rest ∈ u.roles)
  /-- Unless a role was given with two markers, the user has every listed one. -/
  given : (∀ role ∈ givenRoles steps, ∀ rest, role ≠ marked (marked rest)) → ∀ role ∈ u.roles, u.hasRole role = true

/-- **The marker is optional once.**  It is optional in front of every name that does not begin with it, and every user has
the listed roles whose names do not begin with it.  Users that were built in steps have a listed role whose name begins with
the marker, which was given with two of them, exactly when the name without it is listed as well. -/
theorem marker_optional_once :
    (∀ (u : User) (role : String), (∀ rest, role ≠ marked rest) →
      u.hasRole role = u.hasRole (marked role) ∧ (role ∈ u.roles → u.hasRole role = true)) ∧
    ∀ (name : String) (steps : List Addition), BuiltOnce steps ((named name).addAll steps) := by
  have hunmarked : ∀ (u : User) (role : String), (∀ rest, role ≠ marked rest) →
      u.hasRole role = u.hasRole (marked role) ∧ (role ∈ u.roles → u.hasRole role = true) := by
    intro u role h
    refine ⟨hasRole_of_unmarked h, fun hlisted => ?_⟩
    rw [hasRole_of_unmarked h, hasRole_marked_iff]
    exact hlisted
  refine ⟨hunmarked, fun name steps => ⟨fun rest => hasRole_marked_eq_iff, fun rest _ => hasRole_marked_iff, ?_⟩⟩
  intro hgiven role hrole
  refine (hunmarked _ role fun rest hmarked => ?_).2 hrole
  obtain ⟨given, hmem, hname⟩ := exists_given_of_mem hrole
  exact hgiven given hmem rest (eq_marked_of_roleName (hname.trans hmarked))

/-- An editor, and a role whose name begins with the marker. -/
def twiceMarked : List Addition :=
  [.roles ["ROLE_EDITOR"], .authorities ["posts:write"], .roles ["ROLE_ROLE_EDITOR", "ROLE_ROLE_OWNER"]]

theorem marker_optional_once_twiceMarked :
    (∀ rest, "EDITOR" ≠ marked rest) ∧ ((named "ada").addAll twiceMarked).hasRole "EDITOR" = true ∧
      marked "OWNER" ∈ ((named "ada").addAll twiceMarked).roles ∧
      ¬ ((named "ada").addAll twiceMarked).hasRole (marked "OWNER") = true := by
  obtain ⟨hall, hbuilt⟩ := marker_optional_once
  have hunmarked : ∀ rest, "EDITOR" ≠ marked rest := by
    intro rest h
    have hmarker : roleMarker.isPrefixOf "EDITOR".toList = true := isPrefixOf_roleMarker_iff.2 ⟨rest, h⟩
    exact absurd hmarker (by decide)
  have hlisted : marked "OWNER" ∈ ((named "ada").addAll twiceMarked).roles := by decide
  have hinner : "OWNER" ∉ ((named "ada").addAll twiceMarked).roles := by decide
  exact ⟨hunmarked, (hall _ "EDITOR" hunmarked).2 (by decide), hlisted,
    fun h => hinner (((hbuilt "ada" twiceMarked).listed "OWNER" hlisted).1 h)⟩

/-- A user with a role named `ADMIN` does not have it under two markers, and a user whose role was given with two does not
have what is listed. -/
theorem not_markerOptional_built :
    ¬ ((named "ada").addAll [.roles ["ADMIN"]]).MarkerOptional ∧
      ¬ ∀ role ∈ ((named "ada").addAll [.roles ["ROLE_ROLE_ADMIN"]]).roles,
        ((named "ada").addAll [.roles ["ROLE_ROLE_ADMIN"]]).hasRole role = true := by
  constructor
  · intro h
    have hasked := h.asked "ROLE_ADMIN"
    have hone : ((named "ada").addAll [.roles ["ADMIN"]]).hasRole "ROLE_ADMIN" = true := by decide
    have htwo : ((named "ada").addAll [.roles ["ADMIN"]]).hasRole (marked "ROLE_ADMIN") = false := by decide
    rw [hone, htwo] at hasked
    cases hasked
  · intro h
    have hlisted := h "ROLE_ADMIN" (by decide)
    exact absurd hlisted (by decide)

end User
end BrokerGuard
