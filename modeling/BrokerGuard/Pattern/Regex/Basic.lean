import BrokerGuard.Text.CharSet.Derived
/-!
# Regular expressions

The shape of a regular expression and what it matches.  The places of a text lie before its characters and after the last
one, and a row of marks says of each place whether a match may have come that far.  `reach` carries marks through an
expression from all marked places at once, so that a search asks whether a mark is left; which match a backtracking engine
would prefer plays no part.

Expressions follow version 16 of the Unicode standard.
-/
namespace BrokerGuard
namespace Pattern

open Text (CharSet)

/-- The edge of a word. -/
inductive WordEdge where
  /-- A word begins or ends. -/
  | either
  /-- No word begins or ends. -/
  | neither
  | start
  | stop
  /-- No word character stands before. -/
  | openStart
  /-- No word character stands after. -/
  | openStop
  deriving DecidableEq, Repr

/-- What holds of a place by its neighbours. -/
inductive Anchor where
  | textStart
  | textStop
  /-- The start of a line; with `pairs`, a carriage return also ends a line, and one with a line feed after it does so
  once. -/
  | lineStart (pairs : Bool)
  | lineStop (pairs : Bool)
  /-- The edge of a word of Unicode or, without `unicode`, of ASCII. -/
  | edge (kind : WordEdge) (unicode : Bool)
  deriving DecidableEq, Repr

/-- The ASCII characters of words. -/
def asciiWord : CharSet := ⟨[(0x30, 0x39), (0x41, 0x5A), (0x5F, 0x5F), (0x61, 0x7A)]⟩

/-- The characters of words. -/
def wordSet (unicode : Bool) : CharSet := if unicode then .word else asciiWord

namespace Anchor

/-- The neighbour is a character of words. -/
def isWord (unicode : Bool) : Option Char → Bool
  | some c => (wordSet unicode).contains c
  | none => false

/-- The anchor holds between two neighbours, which are missing at the ends of the text. -/
def holds (before after : Option Char) : Anchor → Bool
  | textStart => before.isNone
  | textStop => after.isNone
  | lineStart false => before.isNone || before == some '\n'
  | lineStart true => before.isNone || before == some '\n' || (before == some '\r' && after != some '\n')
  | lineStop false => after.isNone || after == some '\n'
  | lineStop true => after.isNone || after == some '\r' || (after == some '\n' && before != some '\r')
  | edge kind unicode =>
    let inBefore := isWord unicode before
    let inAfter := isWord unicode after
    match kind with
    | .either => inBefore != inAfter
    | .neither => inBefore == inAfter
    | .start => !inBefore && inAfter
    | .stop => inBefore && !inAfter
    | .openStart => !inBefore
    | .openStop => !inAfter

end Anchor

/-- A regular expression.  Where alternatives are a part of something else they stand in a group. -/
inductive Regex where
  /-- The empty text. -/
  | empty
  /-- One character of a set; without `unicode`, the set is one of bytes. -/
  | chars (set : CharSet) (unicode : Bool)
  /-- A place. -/
  | place (anchor : Anchor)
  | concat (first second : Regex)
  | alt (first second : Regex)
  /-- At least `least` and, with `most`, at most `most` repetitions; `greedy` says that many are preferred to few. -/
  | repetition (body : Regex) (least : Nat) (most : Option Nat) (greedy : Bool)
  /-- A group in parentheses.  One that captures what it matches has a label of its own. -/
  | group (label : Option Nat) (body : Regex)
  deriving DecidableEq, Repr

namespace Regex

/-- Moves each mark over the character after it, if that is in the set. -/
def advance (set : CharSet) (text : List Char) (marks : List Bool) : List Bool :=
  false :: List.zipWith (fun c m => m && set.contains c) text marks

/-- Keeps the marks at places where the anchor holds; `before` is the character before the first place. -/
def retain (anchor : Anchor) : Option Char → List Char → List Bool → List Bool
  | before, c :: cs, m :: ms => (m && anchor.holds before (some c)) :: retain anchor (some c) cs ms
  | before, [], m :: _ => [m && anchor.holds before none]
  | _, _, [] => []

/-- The places marked in one of two rows. -/
def join (a b : List Bool) : List Bool := List.zipWith (· || ·) a b

/-- The places marked in the first row and not in the second. -/
def without (a b : List Bool) : List Bool := List.zipWith (fun x y => x && !y) a b

/-- The marks after exactly `rounds` steps; once a step changes nothing, no later one does. -/
def iterate (step : List Bool → List Bool) : Nat → List Bool → List Bool
  | 0, marks => marks
  | rounds + 1, marks =>
    let next := step marks
    if next = marks then marks else iterate step rounds next

/-- The marks after at most `rounds` steps; `seen` are the marks so far, `front` the newest of them. -/
def closure (step : List Bool → List Bool) : Nat → List Bool → List Bool → List Bool
  | 0, seen, _ => seen
  | rounds + 1, seen, front =>
    let new := without (step front) seen
    if new.any id then closure step rounds (join seen new) new else seen

/-- The places at which a match that starts at a marked place can end. -/
def reach (text : List Char) : Regex → List Bool → List Bool
  | empty, marks => marks
  | chars set _, marks => advance set text marks
  | place anchor, marks => retain anchor none text marks
  | concat first second, marks => reach text second (reach text first marks)
  | alt first second, marks => join (reach text first marks) (reach text second marks)
  | repetition body least most _, marks =>
    let start := iterate (reach text body) least marks
    match most with
    | none => closure (reach text body) (text.length + 1) start start
    | some most => closure (reach text body) (most - least) start start
  | group _ body, marks => reach text body marks

/-- The row with all places marked. -/
def allMarks (text : List Char) : List Bool := List.replicate (text.length + 1) true

/-- The expression matches some part of the text. -/
def matchesSomewhere (r : Regex) (text : List Char) : Bool := (r.reach text (allMarks text)).any id

end Regex
end Pattern
end BrokerGuard
