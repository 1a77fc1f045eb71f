import BrokerGuard.User
/-!
# The ambient identity

Code that handles a message or a request can ask for the user on whose behalf it runs.  The answer is kept in a scope: the
current user, and the users that were saved when others took their place.  Outside any scope there is no user, and nothing
can be saved or replaced.

`Surroundings` is what a callback can see and change besides its arguments: the ambient identity and the application's own
state.
-/
namespace BrokerGuard

/-- One scope of the ambient identity. -/
structure Scope where
  current : Option User
  saved : List (Option User) := []
  deriving DecidableEq, Repr

/-- The ambient identity: the innermost scope, if there is one. -/
abbrev Ambient := Option Scope

namespace Ambient

/-- The current user. -/
def user? : Ambient → Option User
  | some scope => scope.current
  | none => none

/-- Replaces the current user. -/
def setUser (user : Option User) : Ambient → Ambient
  | some scope => some { scope with current := user }
  | none => none

/-- Saves the current user and puts another in its place. -/
def push (user : Option User) : Ambient → Ambient
  | some scope => some ⟨user, scope.current :: scope.saved⟩
  | none => none

/-- Brings back the user saved last; without one the scope is left without a user. -/
def pop : Ambient → Ambient
  | some ⟨_, user :: saved⟩ => some ⟨user, saved⟩
  | some ⟨_, []⟩ => some ⟨none, []⟩
  | none => none

end Ambient

/-- What a callback can see and change besides its arguments. -/
structure Surroundings (ω : Type) where
  ambient : Ambient
  world : ω

namespace Surroundings

variable {ω α : Type}

/-- The current user. -/
def currentUser : StateM (Surroundings ω) (Option User) := fun s => (s.ambient.user?, s)

/-- Changes the ambient identity. -/
def modifyAmbient (f : Ambient → Ambient) : StateM (Surroundings ω) Unit :=
  fun s => ((), { s with ambient := f s.ambient })

/-- Changes the application's state. -/
def modifyWorld (f : ω → ω) : StateM (Surroundings ω) Unit := fun s => ((), { s with world := f s.world })

/-- Runs an action in a scope of its own and returns to the scope it was called in. -/
def within (user : Option User) (action : StateM (Surroundings ω) α) : StateM (Surroundings ω) α := fun s =>
  let (result, after) := action { s with ambient := some ⟨user, []⟩ }
  (result, { after with ambient := s.ambient })

end Surroundings
end BrokerGuard
