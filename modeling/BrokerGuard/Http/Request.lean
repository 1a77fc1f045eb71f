import BrokerGuard.Http.Uri
import BrokerGuard.Csrf.Token
import BrokerGuard.Text.Case
import BrokerGuard.Text.Pieces
import BrokerGuard.User
/-!
# HTTP requests

A request has a method, a target and headers.  Header names are compared without regard to letter case, and only the first
value of a name counts.  A value is a row of bytes; it reads as a text when every byte is a printable ASCII character or a
tab.  On its way through the server a request is given the authenticated user and the CSRF token of its session.
-/
namespace BrokerGuard

/-- The value of a header. -/
structure HeaderValue where
  bytes : List UInt8
  deriving DecidableEq, Repr

namespace HeaderValue

/-- The value that writes a text. -/
def ofText (text : String) : HeaderValue := ⟨text.toUTF8.toList⟩

/-- A byte of a readable value. -/
def isReadable (b : UInt8) : Bool := b == 9 || (32 ≤ b && b < 127)

/-- The value as a text, if it is one. -/
def text? (v : HeaderValue) : Option String :=
  if v.bytes.all isReadable then some (String.ofList (v.bytes.map fun b => Char.ofNat b.toNat)) else none

end HeaderValue

/-- An HTTP request. -/
structure HttpRequest where
  method : String := "GET"
  uri : Uri := {}
  headers : List (String × HeaderValue) := []
  /-- The token that the CSRF filter found. -/
  token : Option CsrfToken := none
  /-- The authenticated user. -/
  user : Option User := none

namespace HttpRequest

/-- The path of the target. -/
def path (r : HttpRequest) : String := r.uri.path

/-- Two header names are the same. -/
def sameName (a b : String) : Bool := Text.eqIgnoringCase a.toList b.toList

/-- The values of a header in order. -/
def headerValues (r : HttpRequest) (name : String) : List HeaderValue :=
  (r.headers.filter fun h => sameName h.1 name).map Prod.snd

/-- The first value of a header. -/
def header? (r : HttpRequest) (name : String) : Option HeaderValue :=
  (r.headers.find? fun h => sameName h.1 name).map Prod.snd

/-- The first value of a header, if it is there and reads as a text. -/
def headerText? (r : HttpRequest) (name : String) : Option String := (r.header? name).bind HeaderValue.text?

end HttpRequest
end BrokerGuard
