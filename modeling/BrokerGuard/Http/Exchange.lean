import BrokerGuard.Http.Socket
import BrokerGuard.Identity
/-!
# Exchanges

What a server keeps while it answers a request: the session, the source of secrets, the ambient identity and the
application's state.  A service answers a request within an exchange.
-/
namespace BrokerGuard

/-- The values of an HTTP session, by name in ascending order, and whether they were changed. -/
structure HttpSession where
  members : List (String × Json) := []
  changed : Bool := false

namespace HttpSession

/-- The value under the name. -/
def get? (s : HttpSession) (name : String) : Option Json := s.members.lookup name

/-- The session with the value under the name. -/
def insert (s : HttpSession) (name : String) (value : Json) : HttpSession :=
  ⟨Json.putMember name value s.members, true⟩

/-- The names in order. -/
def names (s : HttpSession) : List String := s.members.map Prod.fst

end HttpSession

/-- An endless supply of secrets, of which some were drawn. -/
structure Secrets where
  nth : Nat → String
  drawn : Nat := 0

namespace Secrets

/-- The next secret. -/
def next (s : Secrets) : String := s.nth s.drawn

/-- Secrets that can be foreseen: sixty-four hexadecimal digits that write a number. -/
def counted (drawn : Nat) : Secrets where
  nth n := String.ofList (List.leftpad 64 '0' (Nat.toDigits 16 n))
  drawn := drawn

/-- The supply after the next secret. -/
def rest (s : Secrets) : Secrets := { s with drawn := s.drawn + 1 }

end Secrets

/-- What a server keeps while it answers a request. -/
structure Exchange (ω : Type) extends Surroundings ω where
  session : HttpSession := {}
  secrets : Secrets

namespace Exchange

variable {ω α : Type}

/-- An action on the surroundings, within an exchange. -/
def lift (action : StateM (Surroundings ω) α) : StateM (Exchange ω) α := fun s =>
  let (result, surroundings) := action s.toSurroundings
  (result, { s with toSurroundings := surroundings })

/-- Runs an action in a scope of its own and returns to the scope it was called in. -/
def within (user : Option User) (action : StateM (Exchange ω) α) : StateM (Exchange ω) α := fun s =>
  let (result, after) := action { s with ambient := some ⟨user, []⟩ }
  (result, { after with ambient := s.ambient })

end Exchange

/-- What a response carries: a text, or a socket with its answers to the client's frames. -/
inductive ResponseBody where
  | text (text : String)
  | socket (converse : List ClientFrame → List ServerFrame)

/-- An HTTP response. -/
structure HttpResponse where
  status : Nat
  body : ResponseBody := .text ""

/-- Answers requests. -/
abbrev Service (ω : Type) := HttpRequest → StateM (Exchange ω) HttpResponse

end BrokerGuard
