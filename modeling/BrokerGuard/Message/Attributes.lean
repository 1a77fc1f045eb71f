import BrokerGuard.Json.Settled
import BrokerGuard.Json.Printer
import BrokerGuard.Json.Decode
/-!
# Session attributes

The attributes of a messaging session are stored JSON values under names, kept in ascending order of the names.  The
handshake fills them in, and every message of the session sees them.
-/
namespace BrokerGuard

/-- Stored values by name. -/
structure SessionAttributes where
  members : List (String × Json) := []

/-- The value under the name is not of the type as which it is read. -/
structure UnreadableAttribute where
  name : String
  deriving DecidableEq, Repr

namespace SessionAttributes

/-- The attributes with the value under the name. -/
def insert (a : SessionAttributes) (name : String) (value : Json) : SessionAttributes :=
  ⟨Json.putMember name value a.members⟩

/-- The value under the name. -/
def get? (a : SessionAttributes) (name : String) : Option Json := a.members.lookup name

/-- The value under the name, read as one of a type; an error when it cannot be read so. -/
def read? {α : Type} [Json.Decode α] (a : SessionAttributes) (name : String) : Except UnreadableAttribute (Option α) :=
  match a.get? name with
  | none => .ok none
  | some value =>
    match Json.decode? value with
    | some read => .ok (some read)
    | none => .error ⟨name⟩

/-- The attributes without the name. -/
def erase (a : SessionAttributes) (name : String) : SessionAttributes := ⟨a.members.filter (·.1 != name)⟩

/-- The name has a value. -/
def contains (a : SessionAttributes) (name : String) : Bool := (a.get? name).isSome

/-- The names in order. -/
def names (a : SessionAttributes) : List String := a.members.map Prod.fst

/-- The number of attributes. -/
def size (a : SessionAttributes) : Nat := a.members.length

/-- There are no attributes. -/
def isEmpty (a : SessionAttributes) : Bool := a.members.isEmpty

/-- The attributes as one value. -/
def toJson (a : SessionAttributes) : Json := .object a.members

/-- The attributes of an object, in stored form. -/
def ofJson? (value : Json) : Option SessionAttributes :=
  match value with
  | .object _ =>
    match value.settle? with
    | some (.object members) => some ⟨members⟩
    | _ => none
  | _ => none

/-- The attributes that a text writes. -/
def ofText? (text : String) : Option SessionAttributes := (Json.ofText text).bind ofJson?

end SessionAttributes
end BrokerGuard
