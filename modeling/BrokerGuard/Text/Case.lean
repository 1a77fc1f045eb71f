import BrokerGuard.Text.Property
import BrokerGuard.Text.Property.Lowercase
/-!
# Letter case

Two notions of letter case.  `eqIgnoringCase`, `lowerAscii` and `upperAscii` touch the letters of ASCII only.  `lower` is the
full Unicode mapping: one character may become two, and a capital sigma becomes a final sigma where a word ends.
-/
namespace BrokerGuard
namespace Text

/-- The letters `A` to `Z` in lower case, every other character as it is. -/
def lowerAscii (s : String) : String := String.ofList (s.toList.map Char.toLower)

/-- The letters `a` to `z` in upper case, every other character as it is. -/
def upperAscii (s : String) : String := String.ofList (s.toList.map Char.toUpper)

/-- Two character lists are equal up to the case of ASCII letters. -/
def eqIgnoringCase (a b : List Char) : Bool := a.map Char.toLower == b.map Char.toLower

namespace Property

/-- The scalar value lies on the run. -/
def CaseRun.contains (r : CaseRun) (n : Nat) : Bool :=
  decide (r.first ≤ n) && decide (n ≤ r.last) && (n - r.first) % r.step == 0

end Property

/-- The single lower-case character of `c`, or `c` itself. -/
def lowerChar (c : Char) : Char :=
  if c.toNat < 128 then c.toLower
  else match Property.lowercaseRuns.find? (·.contains c.toNat) with
    | some r => Char.ofNat (Int.toNat (c.toNat + r.shift))
    | none => c

/-- The lower-case form of `c` without regard to its neighbours.  The dotted capital I is the one character whose form
has two. -/
def lowerForm (c : Char) : List Char :=
  if c = 'İ' then ['i', '\u0307'] else [lowerChar c]

/-- The first character that is not case-ignorable is cased. -/
def startsCased (cs : List Char) : Bool :=
  match cs.dropWhile isCaseIgnorable with
  | c :: _ => isCased c
  | [] => false

/-- Lower case of the characters after `before`, which stands in reverse order: a capital sigma is final when a cased
letter stands before it and none after it. -/
def lowerFrom (before : List Char) : List Char → List Char
  | [] => []
  | c :: cs =>
    (if c = 'Σ' then [if startsCased before && !startsCased cs then 'ς' else 'σ'] else lowerForm c)
      ++ lowerFrom (c :: before) cs

/-- Full lower-casing. -/
def lower (cs : List Char) : List Char := lowerFrom [] cs

end Text
end BrokerGuard
