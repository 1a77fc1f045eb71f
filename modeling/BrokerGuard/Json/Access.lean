import BrokerGuard.Json.Basic
/-!
# Lenient access

Looking into a value whose shape is known beforehand.  What is missing is null, and what is of another kind reads as empty,
so that a reader only says what it looks for.
-/
namespace BrokerGuard
namespace Json

/-- The members of an object. -/
def members : Json → List (String × Json)
  | object ms => ms
  | _ => []

/-- The items of an array. -/
def items : Json → List Json
  | array xs => xs
  | _ => []

/-- There is nothing. -/
def isNull : Json → Bool
  | null => true
  | _ => false

/-- The value, unless it is null. -/
def some? (j : Json) : Option Json := if j.isNull then none else some j

/-- The object has a member of the name. -/
def has (j : Json) (name : String) : Bool := j.members.any (·.1 == name)

/-- The member of the name. -/
def get (j : Json) (name : String) : Json := (j.members.lookup name).getD null

/-- The item at the index. -/
def item (j : Json) (index : Nat) : Json := j.items.getD index null

/-- The text of a string. -/
def text (j : Json) : String := j.string?.getD ""

/-- The texts of an array. -/
def texts (j : Json) : List String := j.items.map text

/-- The number, when it is a natural one. -/
def natural : Json → Nat
  | number (.integer n) => n.toNat
  | _ => 0

/-- The text of the member. -/
def textAt (j : Json) (name : String) : String := (j.get name).text

/-- The text of the member, if it is one. -/
def textAt? (j : Json) (name : String) : Option String := (j.get name).string?

/-- The texts of the member. -/
def textsAt (j : Json) (name : String) : List String := (j.get name).texts

/-- The items of the member. -/
def itemsAt (j : Json) (name : String) : List Json := (j.get name).items

/-- The member is `true`; when it is missing, as `missing` says. -/
def truthAt (j : Json) (name : String) (missing : Bool) : Bool := (j.get name).bool?.getD missing

end Json
end BrokerGuard
