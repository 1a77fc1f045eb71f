import BrokerGuard.Proofs.User.Privileges
/-!
# Building a user — what is left of a history of steps

A user is built in steps, each of which adds roles or authorities.  Adding one item after the other, each unless it is listed
already, comes to the same as adding the new ones in the order in which they first occur (`User.foldl_addNew`).  So only the
row of all roles and the row of all authorities matter, not how the steps cut them up (`User.addAll_eq`), and all that can be
said about the user who was built follows from these rows (`User.addAll_built`).
-/
namespace BrokerGuard
namespace User

/-- A step of building a user. -/
inductive Addition where
  | roles (roles : List String)
  | authorities (authorities : List String)

/-- Takes one step. -/
def add (u : User) : Addition → User
  | .roles roles => u.addRoles roles
  | .authorities authorities => u.addAuthorities authorities

/-- Takes the steps in order. -/
def addAll (u : User) (steps : List Addition) : User := steps.foldl add u

/-- The role names that the steps give, one after the other. -/
def givenRoles (steps : List Addition) : List String :=
  steps.flatMap fun
    | .roles roles => roles
    | .authorities _ => []

/-- The authorities that the steps give, one after the other. -/
def givenAuthorities (steps : List Addition) : List String :=
  steps.flatMap fun
    | .roles _ => []
    | .authorities authorities => authorities

/-- The items that are not listed already, each once, in the order in which they first occur. -/
def fresh (listed given : List String) : List String := (given.filter (· ∉ listed)).eraseDups

theorem mem_fresh_iff {listed given : List String} {item : String} :
    item ∈ fresh listed given ↔ item ∈ given ∧ item ∉ listed := by
  simp [fresh]

theorem mem_append_fresh_iff {listed given : List String} {item : String} :
    item ∈ listed ++ fresh listed given ↔ item ∈ listed ∨ item ∈ given := by
  rw [List.mem_append, mem_fresh_iff]
  by_cases h : item ∈ listed <;> simp [h]

/-- **Adding items one after the other adds what is new, in order.** -/
theorem foldl_addNew (given listed : List String) : given.foldl addNew listed = listed ++ fresh listed given := by
  induction given generalizing listed with
  | nil => simp [fresh]
  | cons item given ih =>
    rw [List.foldl_cons, ih]
    by_cases h : item ∈ listed
    · have hadd : addNew listed item = listed := if_pos (List.contains_iff_mem.2 h)
      have hfresh : fresh listed (item :: given) = fresh listed given := by simp [fresh, h]
      rw [hadd, hfresh]
    · have hadd : addNew listed item = listed ++ [item] := if_neg fun hc => h (List.contains_iff_mem.1 hc)
      have hfresh : fresh listed (item :: given) = item :: fresh (listed ++ [item]) given := by
        have htail : (given.filter (· ∉ listed)).filter (fun other => !other == item) =
            given.filter (· ∉ listed ++ [item]) := by
          rw [List.filter_filter]
          refine List.filter_congr fun other _ => ?_
          by_cases hother : other = item <;> simp [hother]
        simp only [fresh]
        rw [List.filter_cons_of_pos (by simpa using h), List.eraseDups_cons, htail]
      rw [hadd, hfresh, List.append_assoc, List.singleton_append]

theorem foldl_addNew_append (listed given more : List String) :
    (listed ++ fresh listed given) ++ fresh (listed ++ fresh listed given) more =
      listed ++ fresh listed (given ++ more) := by
  rw [← foldl_addNew, ← foldl_addNew, ← foldl_addNew, List.foldl_append]

theorem addRoles_eq (u : User) (roles : List String) :
    u.addRoles roles = { u with roles := u.roles ++ fresh u.roles (roles.map roleName) } := by
  unfold addRoles
  rw [← foldl_addNew, List.foldl_map]

theorem addAuthorities_eq (u : User) (authorities : List String) :
    u.addAuthorities authorities = { u with authorities := u.authorities ++ fresh u.authorities authorities } := by
  unfold addAuthorities
  rw [foldl_addNew]

/-- **Only the two rows of what is given matter.** -/
theorem addAll_eq (u : User) (steps : List Addition) :
    u.addAll steps = {
      username := u.username
      roles := u.roles ++ fresh u.roles ((givenRoles steps).map roleName)
      authorities := u.authorities ++ fresh u.authorities (givenAuthorities steps) } := by
  induction steps generalizing u with
  | nil => simp [addAll, givenRoles, givenAuthorities, fresh]
  | cons step steps ih =>
    have hstep : u.addAll (step :: steps) = (u.add step).addAll steps := rfl
    rw [hstep, ih]
    cases step with
    | roles roles =>
      have hroles : givenRoles (.roles roles :: steps) = roles ++ givenRoles steps := rfl
      have hauthorities : givenAuthorities (.roles roles :: steps) = givenAuthorities steps := rfl
      rw [hroles, hauthorities, add, addRoles_eq, foldl_addNew_append, List.map_append]
    | authorities authorities =>
      have hroles : givenRoles (.authorities authorities :: steps) = givenRoles steps := rfl
      have hauthorities : givenAuthorities (.authorities authorities :: steps) =
          authorities ++ givenAuthorities steps := rfl
      rw [hroles, hauthorities, add, addAuthorities_eq, foldl_addNew_append]

theorem addAll_append (u : User) (before after : List Addition) :
    u.addAll (before ++ after) = (u.addAll before).addAll after := List.foldl_append

theorem within_addAll (u : User) (steps : List Addition) : u.Within (u.addAll steps) := by
  rw [addAll_eq]
  exact ⟨List.subset_append_left _ _, List.subset_append_left _ _⟩

theorem fresh_append_of_subset {listed given more : List String} (h : more ⊆ given) :
    fresh listed (given ++ more) = fresh listed given := by
  have hnone : fresh (listed ++ fresh listed given) more = [] := by
    rw [List.eq_nil_iff_forall_not_mem]
    intro item hitem
    obtain ⟨hmore, hnew⟩ := mem_fresh_iff.1 hitem
    exact hnew (mem_append_fresh_iff.2 (.inr (h hmore)))
  have happend := foldl_addNew_append listed given more
  rw [hnone, List.append_nil] at happend
  exact (List.append_cancel_left happend).symm

/-- A step that was taken before changes nothing. -/
theorem add_of_mem {u : User} {steps : List Addition} {step : Addition} (h : step ∈ steps) :
    (u.addAll steps).add step = u.addAll steps := by
  have hadd : (u.addAll steps).add step = u.addAll (steps ++ [step]) := by rw [addAll_append]; rfl
  rw [hadd, addAll_eq, addAll_eq]
  have hgiven (given : Addition → List String) : [step].flatMap given ⊆ steps.flatMap given := by
    intro item hitem
    obtain ⟨other, hother, hmem⟩ := List.mem_flatMap.1 hitem
    rw [List.mem_singleton.1 hother] at hmem
    exact List.mem_flatMap.2 ⟨step, h, hmem⟩
  have hroles : givenRoles [step] ⊆ givenRoles steps := hgiven _
  have hauthorities : givenAuthorities [step] ⊆ givenAuthorities steps := hgiven _
  have hsplitRoles : givenRoles (steps ++ [step]) = givenRoles steps ++ givenRoles [step] := List.flatMap_append
  have hsplitAuthorities : givenAuthorities (steps ++ [step]) = givenAuthorities steps ++ givenAuthorities [step] :=
    List.flatMap_append
  rw [hsplitRoles, hsplitAuthorities, List.map_append, fresh_append_of_subset (List.map_subset roleName hroles),
    fresh_append_of_subset hauthorities]

/-- What a user is who was built from another one by steps. -/
structure Built (u : User) (steps : List Addition) (v : User) : Prop where
  username : v.username = u.username
  roles : v.roles = u.roles ++ (((givenRoles steps).map roleName).filter (· ∉ u.roles)).eraseDups
  authorities : v.authorities = u.authorities ++ ((givenAuthorities steps).filter (· ∉ u.authorities)).eraseDups
  /-- The name of a role is what it was given as, without the marker if there was one. -/
  names : (∀ name, roleName (marked name) = name) ∧ ∀ role, (∀ name, role ≠ marked name) → roleName role = role
  /-- Other steps that give the same roles and the same authorities build the same user. -/
  regrouped : ∀ steps', givenRoles steps' = givenRoles steps → givenAuthorities steps' = givenAuthorities steps →
    u.addAll steps' = v
  /-- So do the same steps with one of them repeated at any later time. -/
  repeated : ∀ before after step, steps = before ++ after → step ∈ before → u.addAll (before ++ step :: after) = v
  hasRole : ∀ role ∈ givenRoles steps, v.hasRole role = true
  hasAuthority : ∀ authority ∈ givenAuthorities steps, v.hasAuthority authority = true
  hasAuthority_iff : ∀ authority, v.hasAuthority authority = true ↔
    authority ∈ v.authorities ∨ (∃ role, authority = marked role) ∧ v.hasRole authority = true
  /-- What was passed at any time on the way is passed in the end. -/
  kept : ∀ before after, steps = before ++ after → ∀ check, (u.addAll before).passes check = true → v.passes check = true

/-- **What building comes to**, for every user to start with and all steps. -/
theorem addAll_built (u : User) (steps : List Addition) : Built u steps (u.addAll steps) where
  username := by rw [addAll_eq]
  roles := by rw [addAll_eq]; rfl
  authorities := by rw [addAll_eq]; rfl
  names := ⟨roleName_marked, fun _ => roleName_of_unmarked⟩
  regrouped steps' hroles hauthorities := by rw [addAll_eq, addAll_eq, hroles, hauthorities]
  repeated before after step hsteps hmem := by
    have hcons : (u.addAll before).addAll (step :: after) = ((u.addAll before).add step).addAll after := rfl
    rw [addAll_append, hcons, add_of_mem hmem, hsteps, addAll_append]
  hasRole role hrole := by
    rw [User.hasRole_iff, addAll_eq]
    exact mem_append_fresh_iff.2 (.inr (List.mem_map_of_mem hrole))
  hasAuthority authority hauthority := by
    rw [User.hasAuthority_iff, addAll_eq]
    exact .inl (mem_append_fresh_iff.2 (.inr hauthority))
  hasAuthority_iff authority := User.hasAuthority_iff
  kept before after hsteps check hpasses := by
    rw [hsteps, addAll_append]
    exact (within_addAll (u.addAll before) after).passes check hpasses

example : (named "ada").addAll [.roles ["ROLE_ADMIN", "ADMIN"], .authorities ["a"], .roles ["USER", "ROLE_ROLE_USER"],
    .authorities ["b", "a"]] = ⟨"ada", ["ADMIN", "USER", "ROLE_USER"], ["a", "b"]⟩ := by decide

end User
end BrokerGuard
