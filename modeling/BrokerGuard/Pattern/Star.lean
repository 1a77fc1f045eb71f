/-!
# Patterns with stars

A pattern is a list of items, some of which are stars: a star takes any run of the text, every other item takes one piece
of text that fits it.  `starMatch` decides a match with a single cursor.  When the items after a star do not fit, only the
most recent star is given one more piece, never an earlier one.

The cursor is a value of its own, so that its walk can be counted: `run` takes as many steps as it is allowed, and
`starMatch` allows one step for every pair of a position in the pattern and a position in the text.
-/
namespace BrokerGuard
namespace Pattern

/-- Where a walk stands: what is left of the pattern and of the text, and what was left of both just after the most recent
star, the text counted from the first piece that the star does not take yet. -/
structure Cursor (α β : Type) where
  pattern : List α
  text : List β
  retry : Option (List α × List β)

/-- A walk goes on or has its answer. -/
inductive Progress (α β : Type) where
  | more (next : Cursor α β)
  | answer (matched : Bool)

/-- Gives the most recent star one more piece of text, or fails without a star. -/
def Cursor.backtrack {α β : Type} (c : Cursor α β) : Progress α β :=
  match c.retry with
  | some (items, _ :: rest) => .more ⟨items, rest, some (items, rest)⟩
  | _ => .answer false

/-- One step of the walk. -/
def Cursor.step {α β : Type} (isStar : α → Bool) (fits : α → β → Bool) (c : Cursor α β) : Progress α β :=
  match c.text with
  | [] => .answer (c.pattern.all isStar)
  | t :: rest =>
    match c.pattern with
    | [] => c.backtrack
    | p :: items =>
      if isStar p then .more ⟨items, t :: rest, some (items, t :: rest)⟩
      else if fits p t then .more ⟨items, rest, c.retry⟩
      else c.backtrack

/-- At most `steps` steps; no answer when they are used up. -/
def Cursor.run {α β : Type} (isStar : α → Bool) (fits : α → β → Bool) : Nat → Cursor α β → Option Bool
  | 0, _ => none
  | steps + 1, c =>
    match c.step isStar fits with
    | .answer b => some b
    | .more next => next.run isStar fits steps

/-- The whole text matches the whole pattern. -/
def starMatch {α β : Type} (isStar : α → Bool) (fits : α → β → Bool) (pattern : List α) (text : List β) : Bool :=
  ((Cursor.mk pattern text none).run isStar fits ((pattern.length + 1) * (text.length + 1))).getD false

end Pattern
end BrokerGuard
