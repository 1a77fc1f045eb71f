import BrokerGuard.Text.CharSet
/-!
# Characters as bytes

An automaton reads bytes, one to four for a character.  The characters of a run fall into blocks in which each byte runs
through a range of its own; a block is the list of these ranges, first byte first.
-/
namespace BrokerGuard
namespace Pattern

/-- The bytes from a first to a last. -/
structure ByteRange where
  first : Nat
  last : Nat
  deriving DecidableEq, Repr

namespace ByteRange

/-- Splits a run after a scalar value, if that is on it and is not its last. -/
def splitAfter (bound : Nat) (run : Nat × Nat) : List (Nat × Nat) :=
  if run.1 ≤ bound ∧ bound < run.2 then [(run.1, bound), (bound + 1, run.2)] else [run]

/-- The run without the surrogates. -/
def withoutSurrogates (run : Nat × Nat) : List (Nat × Nat) :=
  if run.1 < 0xE000 ∧ 0xD7FF < run.2 then
    (if run.1 ≤ 0xD7FF then [(run.1, 0xD7FF)] else []) ++ (if 0xE000 ≤ run.2 then [(0xE000, run.2)] else [])
  else [run]

/-- Splits off the end of a run that begins with a unit, if it is less than a unit. -/
def splitEnd (unit : Nat) (run : Nat × Nat) : List (Nat × Nat) :=
  if run.1 / unit ≠ run.2 / unit ∧ run.2 % unit ≠ unit - 1 then
    [(run.1, run.2 / unit * unit - 1), (run.2 / unit * unit, run.2)]
  else [run]

/-- Splits a run that reaches over several units so that only whole units stay together. -/
def splitUnits (unit : Nat) (run : Nat × Nat) : List (Nat × Nat) :=
  if run.1 / unit ≠ run.2 / unit ∧ run.1 % unit ≠ 0 then
    let start := (run.1 / unit + 1) * unit
    (run.1, start - 1) :: splitEnd unit (start, run.2)
  else splitEnd unit run

/-- The pieces of a run whose first and last character differ by ranges of their bytes only. -/
def pieces (run : Nat × Nat) : List (Nat × Nat) :=
  (withoutSurrogates run).flatMap (splitAfter 0x7F) |>.flatMap (splitAfter 0x7FF) |>.flatMap (splitAfter 0xFFFF)
    |>.flatMap fun run =>
      if run.2 < 0x80 then [run]
      else (splitUnits 64 run).flatMap (splitUnits (64 * 64)) |>.flatMap (splitUnits (64 * 64 * 64))

/-- The bytes of a character, first byte first. -/
def bytesOf (c : Char) : List Nat := (String.utf8EncodeChar c).map UInt8.toNat

/-- The blocks of a run. -/
def blocks (run : Nat × Nat) : List (List ByteRange) :=
  (pieces run).map fun piece =>
    List.zipWith ByteRange.mk (bytesOf (Char.ofNat piece.1)) (bytesOf (Char.ofNat piece.2))

end ByteRange
end Pattern
end BrokerGuard
