import BrokerGuard.Text.CharSet
import BrokerGuard.Text.Category
/-!
# Sets of general categories

The sets of the characters of one or several general categories.  No character has two, and the unassigned characters are
those without another.
-/
namespace BrokerGuard
namespace Text
namespace CharSet

/-- Every second character from the first to the last of a run. -/
def everySecond (run : Nat × Nat) : List (Nat × Nat) :=
  (List.range ((run.2 - run.1) / 2 + 1)).map fun k => (run.1 + 2 * k, run.1 + 2 * k)

/-- The characters in the tables of a category. -/
def ofTables (category : Category) : CharSet :=
  union ⟨category.runs⟩ (ofSorted (category.alternations.flatMap everySecond))

/-- The characters without a category. -/
def unassigned : CharSet := complement (unions (Category.assigned.map ofTables))

/-- The characters of a category. -/
def ofCategory (category : Category) : CharSet := if category = .unassigned then unassigned else ofTables category

/-- The characters of some categories. -/
def ofCategories (categories : List Category) : CharSet := unions (categories.map ofCategory)

end CharSet
end Text
end BrokerGuard
