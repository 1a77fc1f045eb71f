import BrokerGuard.Text.CharSet
import BrokerGuard.Text.Property.Script
import BrokerGuard.Text.Property.ScriptExtension
import BrokerGuard.Text.Property.Named
import BrokerGuard.Text.Property.Age
/-!
# Sets that tables list

The sets of characters that belong to a script, are used in a script, are as old as a version of the standard, or have one
of the properties that nothing else determines.  They are asked for by a name in small letters.
-/
namespace BrokerGuard
namespace Text
namespace CharSet

/-- The row of a name in a table. -/
def rowOf? {α : Type} (table : List (List String × α)) (name : String) : Option (List String × α) :=
  table.find? fun entry => entry.1.contains name

/-- The characters with a property. -/
def property? (name : String) : Option CharSet := (rowOf? Property.namedProperties name).map fun entry => ⟨entry.2⟩

/-- The characters with a property, none if no property has the name. -/
def property (name : String) : CharSet := (property? name).getD none

/-- The characters that belong to a script. -/
def script? (name : String) : Option CharSet := (rowOf? Property.scripts name).map fun entry => ⟨entry.2⟩

/-- The characters that belong to a script, none if no script has the name. -/
def script (name : String) : CharSet := (script? name).getD none

/-- The runs of characters with scripts of their own, among which is one of the names. -/
def extensionsTo (names : List String) : CharSet :=
  ofSorted ((Property.scriptExtensions.filter fun r => r.2.2.any names.contains).map fun r => (r.1, r.2.1))

/-- The characters that are used in a script. -/
def usedIn? (name : String) : Option CharSet :=
  (rowOf? Property.scripts name).map fun entry =>
    let shared := ofSorted (Property.scriptExtensions.map fun r => (r.1, r.2.1))
    union (difference ⟨entry.2⟩ shared) (extensionsTo entry.1)

/-- The versions up to one by its name. -/
def versionsUpTo (name : String) : List (List String × List (Nat × Nat)) → Option (List (List (Nat × Nat)))
  | [] => Option.none
  | (names, runs) :: rest =>
    if names.contains name then some [runs] else (versionsUpTo name rest).map (runs :: ·)

/-- The characters that a version of the standard has. -/
def presentIn? (version : String) : Option CharSet :=
  (versionsUpTo version Property.ages).map fun added => unions (added.map CharSet.mk)

end CharSet
end Text
end BrokerGuard
