import BrokerGuard.Text.Property
/-!
# Sets of characters

A set is kept as the runs of its characters: in ascending order, and with a value between any two runs that belongs to
neither.  The operations keep this form; the number of runs says how much room a set needs.

The surrogates, U+D800 to U+DFFF, are no characters.  A run may reach over them; two runs that only they part stay two.
-/
namespace BrokerGuard
namespace Text

/-- A set of characters: the first and last scalar value of each run. -/
structure CharSet where
  runs : List (Nat × Nat)
  deriving DecidableEq, Repr

namespace CharSet

/-- The character is in the set. -/
def contains (s : CharSet) (c : Char) : Bool := inRuns s.runs c

/-- No character. -/
def none : CharSet := ⟨[]⟩

/-- Every character. -/
def all : CharSet := ⟨[(0, 0x10FFFF)]⟩

/-- The characters from the first to the last. -/
def range (first last : Char) : CharSet := ⟨[(first.toNat, last.toNat)]⟩

/-- The set of one character. -/
def single (c : Char) : CharSet := range c c

/-- The ASCII characters. -/
def ascii : CharSet := range '\x00' '\x7f'

/-- The only character of the set. -/
def only? (s : CharSet) : Option Char :=
  match s.runs with
  | [(first, last)] => if first = last then some (Char.ofNat first) else Option.none
  | _ => Option.none

/-- All characters of the set are ASCII. -/
def isAscii (s : CharSet) : Bool := s.runs.all fun r => decide (r.2 < 128)

/-- A run followed by runs that begin no earlier: those that overlap or touch become one. -/
def coalesce (run : Nat × Nat) : List (Nat × Nat) → List (Nat × Nat)
  | [] => [run]
  | next :: rest =>
    if next.1 ≤ run.2 + 1 then coalesce (run.1, max run.2 next.2) rest else run :: coalesce next rest

/-- The set of runs in ascending order of their first values. -/
def ofSorted : List (Nat × Nat) → CharSet
  | [] => none
  | run :: rest => ⟨coalesce run rest⟩

/-- The characters of scalar values in any order. -/
def ofValues (values : List Nat) : CharSet := ofSorted ((values.mergeSort (· ≤ ·)).map fun n => (n, n))

/-- The characters of two sets. -/
def union (a b : CharSet) : CharSet := ofSorted (a.runs.merge b.runs fun x y => decide (x.1 ≤ y.1))

/-- The characters of some sets. -/
def unions (sets : List CharSet) : CharSet := sets.foldr union none

/-- What two lists of runs have in common.  The run that ends first has nothing in common with the later ones. -/
def commonRuns : List (Nat × Nat) → List (Nat × Nat) → List (Nat × Nat)
  | a :: as, b :: bs =>
    let rest := if a.2 < b.2 then commonRuns as (b :: bs) else commonRuns (a :: as) bs
    if max a.1 b.1 ≤ min a.2 b.2 then (max a.1 b.1, min a.2 b.2) :: rest else rest
  | _, _ => []
termination_by as bs => as.length + bs.length

/-- The characters that two sets have in common. -/
def intersection (a b : CharSet) : CharSet := ⟨commonRuns a.runs b.runs⟩

/-- The scalar value after one. -/
def after (n : Nat) : Nat := if n = 0xD7FF then 0xE000 else n + 1

/-- The scalar value before one. -/
def before (n : Nat) : Nat := if n = 0xE000 then 0xD7FF else n - 1

/-- The gaps after a run that ends with a value.  A gap of surrogates only ends before it begins. -/
def gapsAfter (last : Nat) : List (Nat × Nat) → List (Nat × Nat)
  | [] => if last < 0x10FFFF then [(after last, 0x10FFFF)] else []
  | run :: rest => (after last, before run.1) :: gapsAfter run.2 rest

/-- The gaps between runs, before the first and after the last. -/
def gaps : List (Nat × Nat) → List (Nat × Nat)
  | [] => [(0, 0x10FFFF)]
  | run :: rest => if 0 < run.1 then (0, before run.1) :: gapsAfter run.2 rest else gapsAfter run.2 rest

/-- The characters outside of the set.  Where two runs have surrogates only between them, the complement holds the two
characters at their sides. -/
def complement (s : CharSet) : CharSet :=
  ⟨(gaps s.runs).map fun gap => (min gap.1 gap.2, max gap.1 gap.2)⟩

/-- The characters of the first set that are not in the second. -/
def difference (a b : CharSet) : CharSet :=
  ⟨commonRuns a.runs ((gaps b.runs).filter fun gap => decide (gap.1 ≤ gap.2))⟩

end CharSet
end Text
end BrokerGuard
