import BrokerGuard.Identity
/-!
# Journals

A journal is an application's record of what happened, one line an event.  Recording interceptors write to it
(`BrokerGuard.Channel.Recorder`, `BrokerGuard.Handshake.Recorder`), so that the order of their calls can be read off.
-/
namespace BrokerGuard

/-- Lines in the order in which they were written. -/
abbrev Journal := List String

namespace Journal

/-- Writes a line. -/
def note (line : String) : StateM (Surroundings Journal) Unit := Surroundings.modifyWorld (· ++ [line])

/-- The name of a user in a line. -/
def nameOf (user : Option User) : String :=
  match user with
  | some user => user.username
  | none => "-"

end Journal
end BrokerGuard
