import BrokerGuard.Pattern.Star
import BrokerGuard.Text.Case
/-!
# Path patterns

A path pattern describes paths part by part.  Parts are what stands between separators; empty parts count for nothing, so
leading, trailing and repeated separators never matter.  A part `**` takes any run of parts.  A part in braces takes any
one part.  In a part with `*` or `?`, `*` takes any run of characters and `?` takes one.  Any other part takes its equal.

Two patterns are equal when their texts, separators and case modes are: what a pattern means is computed from these three.
-/
namespace BrokerGuard
namespace Pattern

/-- What one part of a pattern asks for. -/
inductive Segment where
  /-- Any run of parts. -/
  | anyRun
  /-- Any one part. -/
  | anyPart
  /-- One part that fits the characters, `*` and `?` among them. -/
  | wildcard (chars : List Char)
  /-- One part equal to the characters. -/
  | literal (chars : List Char)
  deriving DecidableEq, Repr

/-- A path pattern. -/
structure Ant where
  source : String
  separator : Char := '/'
  caseSensitive : Bool := true
  deriving DecidableEq, Repr

/-- The pieces between separators, empty ones included. -/
def pieces (separator : Char) : List Char → List (List Char)
  | [] => [[]]
  | c :: cs =>
    if c = separator then [] :: pieces separator cs
    else match pieces separator cs with
      | [] => [[c]]
      | piece :: rest => (c :: piece) :: rest

/-- The parts of a path: its pieces that are not empty. -/
def parts (separator : Char) (path : String) : List (List Char) :=
  (pieces separator path.toList).filter fun piece => !piece.isEmpty

/-- What a part of a pattern asks for. -/
def Segment.ofPart (part : List Char) : Segment :=
  if part = ['*', '*'] then .anyRun
  else if part.head? = some '\x7b' ∧ part.getLast? = some '\x7d' then .anyPart
  else if part.contains '*' || part.contains '?' then .wildcard part
  else .literal part

/-- The segment takes any run of parts. -/
def Segment.isAnyRun : Segment → Bool
  | .anyRun => true
  | _ => false

/-- Characters fit a part with `*` and `?`. -/
def glob (pattern text : List Char) : Bool :=
  starMatch (· == '*') (fun p t => p == '?' || p == t) pattern text

namespace Ant

/-- The pattern `source` with parts separated by `separator`. -/
def withSeparator (source : String) (separator : Char) : Ant := ⟨source, separator, true⟩

/-- The pattern `source` with parts separated by slashes. -/
def ofSource (source : String) : Ant := withSeparator source '/'

/-- The same pattern for paths in any letter case. -/
def ignoringCase (p : Ant) : Ant := ⟨p.source, p.separator, false⟩

/-- The segments of the pattern. -/
def segments (p : Ant) : List Segment := (parts p.separator p.source).map Segment.ofPart

/-- One part of a path fits one segment. -/
def fits (p : Ant) : Segment → List Char → Bool
  | .anyRun, _ => true
  | .anyPart, part => !part.isEmpty
  | .wildcard chars, part => if p.caseSensitive then glob chars part else glob (Text.lower chars) (Text.lower part)
  | .literal chars, part => if p.caseSensitive then chars == part else Text.eqIgnoringCase chars part

/-- The path matches the whole pattern. -/
def accepts (p : Ant) (path : String) : Bool :=
  starMatch Segment.isAnyRun p.fits p.segments (parts p.separator path)

instance : ToString Ant := ⟨Ant.source⟩

end Ant
end Pattern
end BrokerGuard
