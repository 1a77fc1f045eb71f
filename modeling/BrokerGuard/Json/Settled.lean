import BrokerGuard.Json.Binary64
import BrokerGuard.Json.Reader
/-!
# Stored values

Before a value is stored, the members of its objects are sorted by name, of repeated members the last one stays, and
fractions are rounded to sixty-four bits.  A value that nests deeper than 127 levels, or holds a fraction that is too
large, is not stored.
-/
namespace BrokerGuard
namespace Json

/-- The deepest nesting of a stored value. -/
def nestingLimit : Nat := 127

/-- Inserts or replaces a member, keeping the names in ascending order. -/
def putMember (name : String) (value : Json) : List (String × Json) → List (String × Json)
  | [] => [(name, value)]
  | (k, old) :: rest =>
    if name = k then (k, value) :: rest
    else if name < k then (name, value) :: (k, old) :: rest
    else (k, old) :: putMember name value rest

/-- The stored form of a number. -/
def settleNumber : JsonNumber → Option JsonNumber
  | .integer n => some (.integer n)
  | .decimal negative digits exponent => Binary64.store? negative digits exponent

mutual

/-- The stored form of a value that stands inside containers and may hold `depth` more levels of them. -/
def settleWithin (depth : Nat) : Json → Option Json
  | null => some null
  | bool value => some (bool value)
  | number value => (settleNumber value).map number
  | string value => some (string value)
  | array items => if depth = 0 then none else (settleItems (depth - 1) items).map array
  | object members => if depth = 0 then none else (settleMembers (depth - 1) [] members).map object

/-- The stored forms of the items of an array. -/
def settleItems (depth : Nat) : List Json → Option (List Json)
  | [] => some []
  | item :: rest =>
    match settleWithin depth item, settleItems depth rest with
    | some item, some rest => some (item :: rest)
    | _, _ => none

/-- The stored forms of the members of an object, put among those already stored. -/
def settleMembers (depth : Nat) (done : List (String × Json)) : List (String × Json) → Option (List (String × Json))
  | [] => some done
  | (name, value) :: rest =>
    match settleWithin depth value with
    | some value => settleMembers depth (putMember name value done) rest
    | none => none

end

/-- The stored form of a value. -/
def settle? (value : Json) : Option Json := settleWithin nestingLimit value

end Json
end BrokerGuard
