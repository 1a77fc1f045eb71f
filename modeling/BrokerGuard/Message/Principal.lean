import BrokerGuard.Message.Basic
import BrokerGuard.Identity
/-!
# Principals

Whoever handles a message can ask for its principal, from the ambient identity or from the message itself, and require
roles and authorities of it.
-/
namespace BrokerGuard

/-- The authenticated user on whose behalf a message is handled. -/
structure Principal where
  user : User
  deriving DecidableEq, Repr

namespace Principal

/-- The ambient principal, if there is one. -/
def ofAmbient? (ambient : Ambient) : Option Principal := ambient.user?.map Principal.mk

/-- The ambient principal. -/
def ofAmbient (ambient : Ambient) : Except MessageError Principal :=
  match ofAmbient? ambient with
  | some principal => .ok principal
  | none => .error .unauthenticated

/-- The principal that the message carries. -/
def ofMessage? (m : Message) : Option Principal := m.user.map Principal.mk

/-- The principal, provided it has the role. -/
def requireRole (p : Principal) (role : String) : Except MessageError Principal :=
  if p.user.hasRole role then .ok p else .error (.missingRole role)

/-- The principal, provided it has one of the roles. -/
def requireAnyRole (p : Principal) (roles : List String) : Except MessageError Principal :=
  if p.user.hasAnyRole roles then .ok p else .error (.missingRole (String.intercalate ", " roles))

/-- The principal, provided it has the authority. -/
def requireAuthority (p : Principal) (authority : String) : Except MessageError Principal :=
  if p.user.hasAuthority authority then .ok p else .error (.missingAuthority authority)

end Principal
end BrokerGuard
