import BrokerGuard.Endpoint.Mapping
import BrokerGuard.Configuration
/-!
# Component contexts

A context holds named components of several kinds, in the order in which the names were first registered.  Registering a
name again replaces its component in place, also by one of another kind.  A component is looked up by name and kind, and
looking it up under another kind fails; a lookup that fails changes nothing.

The context is written for any family of kinds (`TypedContext`); `ComponentContext` is the one that the broker uses.
-/
namespace BrokerGuard

/-- Why a lookup by name and kind fails. -/
inductive LookupError (κ : Type) where
  | unregistered (name : String)
  | otherKind (name : String) (expected : κ)
  deriving DecidableEq, Repr

/-- Named components, each of one kind. -/
structure TypedContext (κ : Type) (Carrier : κ → Type) where
  entries : List (String × Sigma Carrier) := []

namespace TypedContext

variable {κ : Type} {Carrier : κ → Type}

/-- Replaces the component of the name in place, or adds the name at the end. -/
def registerIn (name : String) (component : Sigma Carrier) : List (String × Sigma Carrier) → List (String × Sigma Carrier)
  | [] => [(name, component)]
  | (n, old) :: rest => if n = name then (n, component) :: rest else (n, old) :: registerIn name component rest

/-- The context with the component under the name. -/
def register (c : TypedContext κ Carrier) (name : String) (kind : κ) (component : Carrier kind) : TypedContext κ Carrier :=
  ⟨registerIn name ⟨kind, component⟩ c.entries⟩

/-- The component under the name, of whatever kind. -/
def find? (c : TypedContext κ Carrier) (name : String) : Option (Sigma Carrier) := c.entries.lookup name

/-- The name is registered. -/
def contains (c : TypedContext κ Carrier) (name : String) : Bool := (c.find? name).isSome

/-- The names in order. -/
def names (c : TypedContext κ Carrier) : List String := c.entries.map Prod.fst

/-- The component under the name, provided it is of the kind. -/
def get [DecidableEq κ] (c : TypedContext κ Carrier) (name : String) (kind : κ) :
    Except (LookupError κ) (Carrier kind) :=
  match c.find? name with
  | none => .error (.unregistered name)
  | some ⟨k, component⟩ => if h : k = kind then .ok (h ▸ component) else .error (.otherKind name kind)

/-- Changes the component under the name, provided it is of the kind. -/
def update [DecidableEq κ] (c : TypedContext κ Carrier) (name : String) (kind : κ) (f : Carrier kind → Carrier kind) :
    Except (LookupError κ) (TypedContext κ Carrier) :=
  match c.get name kind with
  | .ok component => .ok (c.register name kind (f component))
  | .error e => .error e

/-- Takes the component under the name out of the context, provided it is of the kind. -/
def remove [DecidableEq κ] (c : TypedContext κ Carrier) (name : String) (kind : κ) :
    Except (LookupError κ) (Carrier kind × TypedContext κ Carrier) :=
  match c.get name kind with
  | .ok component => .ok (component, ⟨c.entries.filter (·.1 != name)⟩)
  | .error e => .error e

end TypedContext

/-- What a component of each kind is. -/
def ComponentKind.Carrier (ω : Type) : ComponentKind → Type
  | .text => String
  | .number => Nat
  | .handlerMapping => HandlerMapping ω

/-- The components that the broker works with. -/
abbrev ComponentContext (ω : Type) := TypedContext ComponentKind (ComponentKind.Carrier ω)

/-- A failed lookup as a configuration error. -/
def ConfigurationError.ofLookup : LookupError ComponentKind → ConfigurationError
  | .unregistered name => .noSuchComponent name
  | .otherKind name expected => .componentOfOtherKind name expected

/-- The display of a context. -/
def ComponentContext.display {ω : Type} (c : ComponentContext ω) : String :=
  Text.record "ApplicationContext" [("beans", Text.quotedList c.names)]

end BrokerGuard
