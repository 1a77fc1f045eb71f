import BrokerGuard.Text.CharSet
import BrokerGuard.Text.Property.Lowercase
import BrokerGuard.Text.Property.Newest
/-!
# Case variants of the members of a set

Simple case folding brings characters that differ in letter case only to the same letter, one character to one.  Here it is
a list of pairs; a set has all case variants of its members when with one character of a pair it has the other.  The pairs
are those of version 16 of the Unicode standard.
-/
namespace BrokerGuard
namespace Text
namespace CharSet

/-- The lower-case letters that count as a variant of another lower-case letter, which stands after them: long and final
forms, letters that serve as symbols, and letters with a mark of their own. -/
def letterVariants : List (Nat × Nat) :=
  [(0xB5, 0x3BC), (0x17F, 0x73), (0x345, 0x3B9), (0x3C2, 0x3C3), (0x3D0, 0x3B2), (0x3D1, 0x3B8), (0x3D5, 0x3C6),
   (0x3D6, 0x3C0), (0x3F0, 0x3BA), (0x3F1, 0x3C1), (0x3F5, 0x3B5), (0x1C80, 0x432), (0x1C81, 0x434), (0x1C82, 0x43E),
   (0x1C83, 0x441), (0x1C84, 0x442), (0x1C85, 0x442), (0x1C86, 0x44A), (0x1C87, 0x463), (0x1C88, 0xA64B),
   (0x1E9B, 0x1E61), (0x1FBE, 0x3B9), (0x1FD3, 0x390), (0x1FE3, 0x3B0), (0xFB05, 0xFB06)]

/-- The capitals of a run with their lower-case letters. -/
def casePairsOf (r : Property.CaseRun) : List (Nat × Nat) :=
  (List.range ((r.last - r.first) / r.step + 1)).map fun k =>
    let capital := r.first + k * r.step
    (capital, Int.toNat (capital + r.shift))

/-- The value is that of a character that only the newest version of the standard has. -/
def isNewest (n : Nat) : Bool := Property.newestRuns.any fun r => decide (r.1 ≤ n) && decide (n ≤ r.2)

/-- The capitals with their lower-case letters. -/
def capitalPairs : List (Nat × Nat) :=
  (Property.lowercaseRuns.flatMap casePairsOf).filter fun p => !isNewest p.1 && !isNewest p.2

/-- The pairs in both directions, in ascending order. -/
def casePairs : List (Nat × Nat) :=
  let pairs := capitalPairs ++ letterVariants
  (pairs ++ pairs.map fun p => (p.2, p.1)).mergeSort fun p q => decide (p.1 ≤ q.1)

/-- The second values of the pairs whose first value lies on a run; both lists are in ascending order. -/
def partners : List (Nat × Nat) → List (Nat × Nat) → List Nat
  | run :: runs, pair :: pairs =>
    if pair.1 < run.1 then partners (run :: runs) pairs
    else if run.2 < pair.1 then partners runs (pair :: pairs)
    else pair.2 :: partners (run :: runs) pairs
  | _, _ => []
termination_by runs pairs => runs.length + pairs.length

/-- The set with the partners of its members, again for so many rounds as long as there are new ones. -/
def withPartners : Nat → CharSet → CharSet
  | 0, s => s
  | rounds + 1, s =>
    let larger := s.union (ofValues (partners s.runs casePairs))
    if larger = s then s else withPartners rounds larger

/-- The set with all case variants of its members.  No two variants are more than four pairs apart. -/
def anyCase (s : CharSet) : CharSet := withPartners 4 s

end CharSet
end Text
end BrokerGuard
