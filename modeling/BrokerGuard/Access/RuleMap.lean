import BrokerGuard.Access.Attribute
/-!
# Rule maps

A rule map binds keys to attributes in the order in which the keys were first inserted.  Inserting a key again replaces its
attributes and keeps its place.  Whoever asks for the rules of an object takes the first key that applies to it.
-/
namespace BrokerGuard

/-- Attributes by key, in the order of first insertion. -/
structure RuleMap (κ : Type) where
  entries : List (κ × List Attribute) := []

namespace RuleMap

variable {κ : Type} [DecidableEq κ]

/-- Replaces the attributes of the key in place, or adds the key at the end. -/
def insertInto (key : κ) (attributes : List Attribute) : List (κ × List Attribute) → List (κ × List Attribute)
  | [] => [(key, attributes)]
  | (k, old) :: rest => if k = key then (k, attributes) :: rest else (k, old) :: insertInto key attributes rest

/-- The map with the key bound to the attributes. -/
def insert (map : RuleMap κ) (key : κ) (attributes : List Attribute) : RuleMap κ :=
  ⟨insertInto key attributes map.entries⟩

/-- Inserts every entry in turn. -/
def ofList (entries : List (κ × List Attribute)) : RuleMap κ :=
  entries.foldl (fun map entry => map.insert entry.1 entry.2) {}

/-- The attributes of the first key that satisfies the test. -/
def findFirst {κ : Type} (map : RuleMap κ) (test : κ → Bool) : Option (List Attribute) :=
  (map.entries.find? fun entry => test entry.1).map Prod.snd

/-- The attributes of the key. -/
def get? (map : RuleMap κ) (key : κ) : Option (List Attribute) := map.findFirst (· == key)

/-- The keys in order. -/
def keys {κ : Type} (map : RuleMap κ) : List κ := map.entries.map Prod.fst

/-- Every attribute in order. -/
def allAttributes {κ : Type} (map : RuleMap κ) : List Attribute := map.entries.flatMap Prod.snd

/-- The number of keys. -/
def size {κ : Type} (map : RuleMap κ) : Nat := map.entries.length

/-- There are no keys. -/
def isEmpty {κ : Type} (map : RuleMap κ) : Bool := map.entries.isEmpty

end RuleMap
end BrokerGuard
