import BrokerGuard.Text.Quoted
import BrokerGuard.Json.Encode
import BrokerGuard.Json.Decode
import BrokerGuard.Json.Reader
/-!
# Users

A user has a name, roles and authorities.  Roles may be named with or without the leading `ROLE_`: adding a role drops it
once, and so does asking for one.  An authority that begins with `ROLE_` is also granted by the role it names.
-/
namespace BrokerGuard

/-- An authenticated user. -/
structure User where
  username : String
  roles : List String
  authorities : List String
  deriving DecidableEq, Repr

/-- The marker of role names. -/
def roleMarker : List Char := "ROLE_".toList

/-- A role's name without one leading marker. -/
def roleName (role : String) : String :=
  if roleMarker.isPrefixOf role.toList then String.ofList (role.toList.drop roleMarker.length) else role

namespace User

/-- A user without roles and authorities. -/
def named (username : String) : User := ⟨username, [], []⟩

/-- The list with the item at its end, unless it is listed already. -/
def addNew (items : List String) (item : String) : List String :=
  if items.contains item then items else items ++ [item]

/-- Adds roles, each without its marker and each once. -/
def addRoles (u : User) (roles : List String) : User :=
  { u with roles := roles.foldl (fun acc r => addNew acc (roleName r)) u.roles }

/-- Adds authorities, each once. -/
def addAuthorities (u : User) (authorities : List String) : User :=
  { u with authorities := authorities.foldl addNew u.authorities }

/-- The user has the role, named with or without its marker. -/
def hasRole (u : User) (role : String) : Bool := u.roles.contains (roleName role)

/-- The user has one of the roles. -/
def hasAnyRole (u : User) (roles : List String) : Bool := roles.any u.hasRole

/-- The user has the authority, or the role it names. -/
def hasAuthority (u : User) (authority : String) : Bool :=
  u.authorities.contains authority || (roleMarker.isPrefixOf authority.toList && u.hasRole authority)

/-- The user has one of the authorities. -/
def hasAnyAuthority (u : User) (authorities : List String) : Bool := authorities.any u.hasAuthority

/-- The display of a user: the name as it is, roles and authorities quoted. -/
def display (u : User) : String :=
  Text.record "User" [("username", u.username), ("roles", Text.quotedList u.roles),
    ("authorities", Text.quotedList u.authorities)]

instance : ToString User := ⟨display⟩

/-- The stored form of a user, its names in ascending order. -/
def toJson (u : User) : Json :=
  .object [("authorities", u.authorities), ("roles", u.roles), ("username", u.username)]

/-- The names of the fields in order. -/
def fieldNames : List String := ["username", "roles", "authorities"]

/-- Reads the stored form. -/
def ofJson? (value : Json) : Option User :=
  match value.fields? fieldNames with
  | some [some username, some roles, some authorities] =>
    match Json.decode? username, Json.decode? roles, Json.decode? authorities with
    | some username, some roles, some authorities => some ⟨username, roles, authorities⟩
    | _, _, _ => none
  | _ => none

/-- The user that a text writes. -/
def ofText? (text : String) : Option User := (Json.ofRecordText fieldNames text).bind ofJson?

instance : Json.Encode User := ⟨toJson⟩
instance : Json.Decode User := ⟨ofJson?⟩

end User
end BrokerGuard
