import BrokerGuard.Pattern.Regex.Basic
/-!
# Blueprints

A regular expression in the form in which an automaton is built from it.  Characters in a row are one word, sets of one
character are words too, what matches the empty text only is written once, branches of a choice that are characters or sets
are one set, and parts with which all branches begin stand before the choice.  A blueprint matches what its expression
matches; it only takes fewer states.
-/
namespace BrokerGuard
namespace Pattern

open Text (CharSet)

/-- The parts of an automaton. -/
inductive Blueprint where
  | empty
  /-- Characters in a row. -/
  | word (text : List Char)
  /-- One character of a set, which is no set of one character; without `unicode`, a set of bytes. -/
  | chars (set : CharSet) (unicode : Bool)
  | place (anchor : Anchor)
  /-- A part, which is neither empty nor a sequence, and what follows it. -/
  | sequence (part rest : Blueprint)
  /-- A branch, which is no choice, and the other branches. -/
  | choice (branch rest : Blueprint)
  | repetition (body : Blueprint) (least : Nat) (most : Option Nat) (greedy : Bool)
  /-- A group that captures what it matches. -/
  | capture (label : Nat) (body : Blueprint)
  deriving DecidableEq, Repr

namespace Blueprint

/-! ## What a blueprint can match -/

/-- The fewest characters of a match, unless a set without characters leaves that open. -/
def minLength : Blueprint → Option Nat
  | empty => some 0
  | word text => some text.length
  | chars set _ => if set = .none then none else some 1
  | place _ => some 0
  | sequence part rest => do pure ((← part.minLength) + (← rest.minLength))
  | choice branch rest => do pure (min (← branch.minLength) (← rest.minLength))
  | repetition body least _ _ => body.minLength.map (· * least)
  | capture _ body => body.minLength

/-- Every match is the empty text.  This is not said of a set without characters, although it has no match. -/
def isZeroWidth : Blueprint → Bool
  | empty => true
  | word text => text.isEmpty
  | chars _ _ => false
  | place _ => true
  | sequence part rest => part.isZeroWidth && rest.isZeroWidth
  | choice branch rest => branch.isZeroWidth && rest.isZeroWidth
  | repetition body _ most _ => most.isSome && body.isZeroWidth
  | capture _ body => body.isZeroWidth

/-- Every match begins at the start of the text, because places before the first character say so. -/
def startsText : Blueprint → Bool
  | empty => false
  | word _ => false
  | chars _ _ => false
  | place anchor => anchor == .textStart
  | sequence part rest => part.startsText || (part.isZeroWidth && rest.startsText)
  | choice branch rest => branch.startsText && rest.startsText
  | repetition body least _ _ => decide (0 < least) && body.startsText
  | capture _ body => body.startsText

/-- Every match ends at the end of the text, because places after the last character say so. -/
def stopsText : Blueprint → Bool
  | empty => false
  | word _ => false
  | chars _ _ => false
  | place anchor => anchor == .textStop
  | sequence part rest => rest.stopsText || (rest.isZeroWidth && part.stopsText)
  | choice branch rest => branch.stopsText && rest.stopsText
  | repetition body least _ _ => decide (0 < least) && body.stopsText
  | capture _ body => body.stopsText

/-! ## Sequences -/

/-- The parts of a sequence. -/
def parts : Blueprint → List Blueprint
  | empty => []
  | sequence part rest => part :: rest.parts
  | b => [b]

/-- Puts a part before a sequence. -/
def prepend : Blueprint → Blueprint → Blueprint
  | empty, b => b
  | part, empty => part
  | word a, word b => word (a ++ b)
  | word a, sequence (word b) rest => sequence (word (a ++ b)) rest
  | part, b => sequence part b

/-- The sequence of parts. -/
def ofParts (parts : List Blueprint) : Blueprint := parts.foldr prepend empty

/-- One sequence after the other. -/
def append (a b : Blueprint) : Blueprint := a.parts.foldr prepend b

/-! ## Sets and choices -/

/-- One character of a set. -/
def ofSet (set : CharSet) (unicode : Bool) : Blueprint :=
  match set.only? with
  | some c => word [c]
  | none => chars set (unicode && set != .none)

/-- The branches of a choice. -/
def branches : Blueprint → List Blueprint
  | choice branch rest => branch :: rest.branches
  | b => [b]

/-- The set of branches that are all words of one character. -/
def letters? : List Blueprint → Option CharSet
  | [] => some .none
  | word [c] :: rest => (letters? rest).map (CharSet.single c).union
  | _ => none

/-- The set of branches that are all sets. -/
def sets? : List Blueprint → Option CharSet
  | [] => some .none
  | chars set _ :: rest => (sets? rest).map set.union
  | _ => none

/-- The choice of some branches. -/
def oneOf : List Blueprint → Blueprint
  | [] => chars .none false
  | [b] => b
  | b :: rest => choice b (oneOf rest)

/-- The choice of branches, as one set if they are characters or sets. -/
def gather (alternatives : List Blueprint) : Blueprint :=
  match letters? alternatives, sets? alternatives with
  | some set, _ => ofSet set true
  | none, some set => ofSet set true
  | none, none => oneOf alternatives

/-- The parts with which both sequences begin. -/
def sharedParts : List Blueprint → List Blueprint → List Blueprint
  | a :: as, b :: bs => if a = b then a :: sharedParts as bs else []
  | _, _ => []

/-- The parts with which all branches begin; only a branch of several parts shares some. -/
def sharedStart : List Blueprint → List Blueprint
  | [] => []
  | b :: rest =>
    if (b :: rest).all fun b => decide (2 ≤ b.parts.length) then
      rest.foldl (fun shared b => sharedParts shared b.parts) b.parts
    else []

/-- The choice of alternatives: their branches, with what all begin with before the choice. -/
def ofAlternatives (alternatives : List Blueprint) : Blueprint :=
  match alternatives.flatMap branches with
  | [b] => b
  | all =>
    let shared := sharedStart all
    if shared.isEmpty then gather all
    else
      let rests := all.map fun b => ofParts (b.parts.drop shared.length)
      append (ofParts shared) (gather (rests.flatMap branches))

/-- The repetition of a body.  A body that matches the empty text only is repeated at most once. -/
def repeated (body : Blueprint) (least : Nat) (most : Option Nat) (greedy : Bool) : Blueprint :=
  let once := body.isZeroWidth
  let least := if once then min least 1 else least
  let most := if once then some (min (most.getD 1) 1) else most
  if least = 0 ∧ most = some 0 then empty
  else if least = 1 ∧ most = some 1 then body
  else repetition body least most greedy

end Blueprint

namespace Regex

/-- The blueprints of the alternatives of an expression. -/
def alternatives : Regex → List Blueprint
  | empty => [.empty]
  | chars set unicode => [.ofSet set unicode]
  | place anchor => [.place anchor]
  | concat first second => [.append (.ofAlternatives first.alternatives) (.ofAlternatives second.alternatives)]
  | alt first second => first.alternatives ++ second.alternatives
  | repetition body least most greedy => [(Blueprint.ofAlternatives body.alternatives).repeated least most greedy]
  | group none body => [.ofAlternatives body.alternatives]
  | group (some label) body => [.capture label (.ofAlternatives body.alternatives)]

/-- The blueprint of an expression. -/
def blueprint (r : Regex) : Blueprint := .ofAlternatives r.alternatives

end Regex
end Pattern
end BrokerGuard
