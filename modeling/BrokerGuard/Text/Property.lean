import BrokerGuard.Text.Property.Alphabetic
import BrokerGuard.Text.Property.Numeric
import BrokerGuard.Text.Property.Cased
import BrokerGuard.Text.Property.CaseIgnorable
import BrokerGuard.Text.Property.Hidden
/-!
# Character classes

The classes by which texts are cut into words.  Each is a property of the Unicode character database, version 17: its table
lists the runs of characters that have it, and membership is a search of the table.  ASCII characters are decided without
the table, which gives the same answer.
-/
namespace BrokerGuard
namespace Text

/-- A character lies in one of the runs. -/
def inRuns (runs : List (Nat × Nat)) (c : Char) : Bool :=
  runs.any fun r => decide (r.1 ≤ c.toNat) && decide (c.toNat ≤ r.2)

/-- The runs of the property White_Space. -/
def whiteSpaceRuns : List (Nat × Nat) :=
  [(0x9, 0xD), (0x20, 0x20), (0x85, 0x85), (0xA0, 0xA0), (0x1680, 0x1680), (0x2000, 0x200A), (0x2028, 0x2029),
   (0x202F, 0x202F), (0x205F, 0x205F), (0x3000, 0x3000)]

/-- The property White_Space. -/
def isWhiteSpace (c : Char) : Bool := inRuns whiteSpaceRuns c

/-- The property Alphabetic. -/
def isAlphabetic (c : Char) : Bool :=
  if c.toNat < 128 then c.isAlpha else inRuns Property.alphabeticRuns c

/-- One of the general categories Nd, Nl and No. -/
def isNumeric (c : Char) : Bool :=
  if c.toNat < 128 then c.isDigit else inRuns Property.numericRuns c

/-- Alphabetic or numeric. -/
def isAlphanumeric (c : Char) : Bool := isAlphabetic c || isNumeric c

/-- The property Cased: the character belongs to a script with upper and lower case. -/
def isCased (c : Char) : Bool := inRuns Property.casedRuns c

/-- The property Case_Ignorable: the character does not separate cased letters of one word. -/
def isCaseIgnorable (c : Char) : Bool := inRuns Property.caseIgnorableRuns c

/-- A character that a quoted text writes by its scalar value. -/
def isHidden (c : Char) : Bool :=
  if c.toNat < 128 then decide (c.toNat < 32) || decide (c.toNat = 127) else inRuns Property.hiddenRuns c

end Text
end BrokerGuard
