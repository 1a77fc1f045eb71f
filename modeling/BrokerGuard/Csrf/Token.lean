import BrokerGuard.Message.Attributes
import BrokerGuard.Json.Encode
/-!
# CSRF tokens

A token is a secret text together with the header and the parameter under which a client repeats it.  In stored form it is
an object of its three texts.
-/
namespace BrokerGuard

/-- A CSRF token. -/
structure CsrfToken where
  value : String
  headerName : String
  parameterName : String
  deriving DecidableEq, Repr

namespace CsrfToken

/-- The usual header. -/
def defaultHeader : String := "X-CSRF-TOKEN"

/-- The usual parameter. -/
def defaultParameter : String := "_csrf"

/-- The session attribute that holds the token of a messaging session. -/
def attributeName : String := "CsrfToken"

/-- A token under the usual names. -/
def ofValue (value : String) : CsrfToken := ⟨value, defaultHeader, defaultParameter⟩

/-- The candidate repeats the token. -/
def accepts (t : CsrfToken) (candidate : String) : Bool := t.value == candidate

/-- The stored form, its fields in order. -/
def fields (t : CsrfToken) : List (String × Json) :=
  [("token", .string t.value), ("header_name", .string t.headerName), ("parameter_name", .string t.parameterName)]

/-- The stored form as a session attribute, its names in ascending order. -/
def toJson (t : CsrfToken) : Json :=
  .object [("header_name", .string t.headerName), ("parameter_name", .string t.parameterName),
    ("token", .string t.value)]

/-- The names of the fields in order. -/
def fieldNames : List String := ["token", "header_name", "parameter_name"]

/-- Reads the stored form. -/
def ofJson? (value : Json) : Option CsrfToken :=
  match value.fields? fieldNames with
  | some [some token, some header, some parameter] =>
    match token.string?, header.string?, parameter.string? with
    | some token, some header, some parameter => some ⟨token, header, parameter⟩
    | _, _, _ => none
  | _ => none

/-- The token that a text writes. -/
def ofText? (text : String) : Option CsrfToken := (Json.ofRecordText fieldNames text).bind ofJson?

instance : Json.Encode CsrfToken := ⟨toJson⟩
instance : Json.Decode CsrfToken := ⟨ofJson?⟩

end CsrfToken

/-- Why the HTTP check of a token fails. -/
inductive CsrfError where
  | missingToken
  | invalidToken
  | storage (message : String)
  deriving DecidableEq, Repr

namespace CsrfError

/-- The wording of a token error. -/
def message : CsrfError → String
  | missingToken => "CSRF token missing"
  | invalidToken => "Invalid CSRF token"
  | storage message => "CSRF storage error: " ++ message

/-- The HTTP status of a token error. -/
def status : CsrfError → Nat
  | missingToken => 403
  | invalidToken => 403
  | storage _ => 500

end CsrfError
end BrokerGuard
