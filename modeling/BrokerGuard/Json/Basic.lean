/-!
# JSON values

A value keeps the members of an object in the order in which they were written, repetitions included; `settle`
(`BrokerGuard.Json.Settled`) brings a value into the form in which it is stored.  A number is an integer or a decimal
fraction: its digits as one integer, and the power of ten that scales them.
-/
namespace BrokerGuard

/-- A JSON number. -/
inductive JsonNumber where
  | integer (value : Int)
  | decimal (negative : Bool) (digits : Nat) (exponent : Int)
  deriving DecidableEq, Repr

/-- A JSON value. -/
inductive Json where
  | null
  | bool (value : Bool)
  | number (value : JsonNumber)
  | string (value : String)
  | array (items : List Json)
  | object (members : List (String × Json))
  deriving Repr

/-- The numbers are the same; a fraction may be a negative zero, which is the same as zero. -/
def JsonNumber.same : JsonNumber → JsonNumber → Bool
  | decimal _ 0 _, decimal _ 0 _ => true
  | a, b => decide (a = b)

namespace Json

mutual

/-- The values are the same, members in the same order. -/
def same : Json → Json → Bool
  | null, null => true
  | bool a, bool b => a == b
  | number a, number b => a.same b
  | string a, string b => a == b
  | array a, array b => sameItems a b
  | object a, object b => sameMembers a b
  | _, _ => false

/-- The items are the same one by one. -/
def sameItems : List Json → List Json → Bool
  | [], [] => true
  | x :: xs, y :: ys => same x y && sameItems xs ys
  | _, _ => false

/-- The members are the same one by one. -/
def sameMembers : List (String × Json) → List (String × Json) → Bool
  | [], [] => true
  | (k, x) :: xs, (l, y) :: ys => k == l && same x y && sameMembers xs ys
  | _, _ => false

end

instance : BEq Json := ⟨same⟩

/-- The text of a string value. -/
def string? : Json → Option String
  | string value => some value
  | _ => none

/-- The truth value. -/
def bool? : Json → Option Bool
  | bool value => some value
  | _ => none

/-- The integer, when it lies between the bounds. -/
def integer? (low high : Int) : Json → Option Int
  | number (.integer n) => if low ≤ n ∧ n ≤ high then some n else none
  | _ => none

/-- A map of strings; of a repeated key the last member counts. -/
def stringMap? : Json → Option (List (String × String))
  | object members => do
    let entries ← members.mapM fun m => m.2.string?.map fun v => (m.1, v)
    pure (entries.foldl (fun acc e => acc.filter (·.1 != e.1) ++ [e]) [])
  | _ => none

/-- The only member with the name; nothing when it is missing, and no reading when it is repeated. -/
def member? (name : String) (members : List (String × Json)) : Option (Option Json) :=
  match members.filter (·.1 == name) with
  | [] => some none
  | [m] => some (some m.2)
  | _ => none

/-- The fields of a record, in the order of their names, as far as they are present.  A record is written as an object, in
which members of other names are ignored and a field must not stand twice, or as an array of the fields in order. -/
def fields? (names : List String) : Json → Option (List (Option Json))
  | object members => names.mapM fun name => member? name members
  | array items =>
    if items.length ≤ names.length then
      some (items.map some ++ List.replicate (names.length - items.length) none)
    else none
  | _ => none

end Json
end BrokerGuard
