import BrokerGuard.Pattern.Regex.Escape
/-!
# Sets in regular expressions

A set in brackets: characters, ranges, escapes, named sets such as `[:digit:]`, and sets inside sets, which together form
a union; unions are joined from left to right by `&&` for what both hold, `--` for what only the first holds and `~~` for
what exactly one holds.  After the opening bracket a circumflex asks for the complement, dashes stand for themselves, and
a closing bracket stands for itself if it is the first.

The readers take the number of remaining steps; a text never needs more than four for each of its characters.
-/
namespace BrokerGuard
namespace Pattern
namespace Regex

open Text (CharSet)

/-- A union as far as it is read, the number of its items, and how deep they nest. -/
structure SetReading where
  set : CharSet := .none
  items : Nat := 0
  depth : Nat := 0
  deriving DecidableEq, Repr

namespace SetReading

/-- Adds an item. -/
def add (r : SetReading) (set : CharSet) (depth : Nat) : SetReading := ⟨.union r.set set, r.items + 1, max r.depth depth⟩

/-- How deep the union nests: two items or more are one level. -/
def nesting (r : SetReading) : Nat := if r.items ≤ 1 then r.depth else r.depth + 1

end SetReading

/-- The ASCII set of a name. -/
def namedSet? (name : String) : Option CharSet :=
  match name with
  | "alnum" => some (.unions [.range '0' '9', .range 'A' 'Z', .range 'a' 'z'])
  | "alpha" => some (.unions [.range 'A' 'Z', .range 'a' 'z'])
  | "ascii" => some .ascii
  | "blank" => some (.unions [.single '\t', .single ' '])
  | "cntrl" => some (.unions [.range '\x00' '\x1f', .single '\x7f'])
  | "digit" => some (.range '0' '9')
  | "graph" => some (.range '!' '~')
  | "lower" => some (.range 'a' 'z')
  | "print" => some (.range ' ' '~')
  | "punct" => some (.unions [.range '!' '/', .range ':' '@', .range '[' '\x60', .range '\x7b' '~'])
  | "space" => some (.unions [.range '\t' '\r', .single ' '])
  | "upper" => some (.range 'A' 'Z')
  | "word" => some (.unions [.range '0' '9', .range 'A' 'Z', .single '_', .range 'a' 'z'])
  | "xdigit" => some (.unions [.range '0' '9', .range 'A' 'F', .range 'a' 'f'])
  | _ => none

/-- Reads a named set, after its opening bracket: the set, and whether its complement is meant. -/
def readNamedSet : List Char → Option (CharSet × Bool × List Char)
  | ':' :: rest =>
    let negated := rest.head? == some '^'
    let rest := if negated then rest.drop 1 else rest
    let name := rest.takeWhile (· != ':')
    match rest.drop name.length with
    | ':' :: ']' :: rest => (namedSet? (String.ofList name)).map fun set => (set, negated, rest)
    | _ => none
  | _ => none

/-- Reads a character or an escape of a set.  Places are no members of sets, and without Unicode only ASCII characters
are. -/
def readSetAtom (f : Flags) (cs : List Char) : Option (Atom × List Char) := do
  let (atom, rest) ← match cs with
    | '\\' :: rest => readEscape f rest
    | c :: rest => some (.char c, rest)
    | [] => none
  match atom with
  | .char c => if f.unicode || decide (c.toNat < 128) then pure (atom, rest) else none
  | .set _ => pure (atom, rest)
  | .place _ => none

/-- The set of an atom. -/
def Atom.members : Atom → CharSet
  | .char c => .single c
  | .set members => members
  | .place _ => .none

/-- Reads an item of a set: an atom, or two with a dash between them.  A dash before another or before the end of the set
is no range. -/
def readSetItem (f : Flags) (cs : List Char) : Option (CharSet × List Char) := do
  let (low, rest) ← readSetAtom f cs
  match f.skip rest with
  | [] => none
  | '-' :: after =>
    let next := (f.skip after).head?
    if next = some ']' ∨ next = some '-' then pure (low.members, '-' :: after)
    else
      let (high, rest) ← readSetAtom f (f.skip after)
      match low, high with
      | .char low, .char high => if low ≤ high then pure (.range low high, rest) else none
      | _, _ => none
  | rest => pure (low.members, rest)

/-- Reads the dashes with which a set begins. -/
def readDashes (f : Flags) : Nat → SetReading → List Char → SetReading × List Char
  | 0, r, cs => (r, cs)
  | steps + 1, r, cs =>
    match cs with
    | '-' :: rest => readDashes f steps (r.add (.single '-') 0) (f.skip rest)
    | _ => (r, cs)

/-- Reads the characters that stand for themselves only at the beginning of a set. -/
def readSetStart (f : Flags) (cs : List Char) : SetReading × List Char :=
  let (r, rest) := readDashes f cs.length {} cs
  match rest with
  | ']' :: after => if r.items = 0 then (r.add (.single ']') 0, f.skip after) else (r, rest)
  | _ => (r, rest)

mutual

/-- Reads a set, after its opening bracket: the set, how deep it nests, and the rest. -/
def readSet : Nat → Flags → List Char → Option (CharSet × Nat × List Char)
  | 0, _, _ => none
  | steps + 1, f, cs => do
    let cs := f.skip cs
    let negated := cs.head? == some '^'
    let (start, cs) := readSetStart f (if negated then f.skip (cs.drop 1) else cs)
    let (first, rest) ← readUnion steps f start cs
    let (set, depth, rest) ← readOperations steps f first.set first.nesting rest
    let set ← f.negate? negated (f.fold set)
    pure (set, depth + 1, rest)

/-- Reads the items of a union up to a closing bracket or the sign of an operation. -/
def readUnion : Nat → Flags → SetReading → List Char → Option (SetReading × List Char)
  | 0, _, _, _ => none
  | steps + 1, f, r, cs =>
    match f.skip cs with
    | [] => none
    | ']' :: rest => some (r, ']' :: rest)
    | '&' :: '&' :: rest => some (r, '&' :: '&' :: rest)
    | '-' :: '-' :: rest => some (r, '-' :: '-' :: rest)
    | '~' :: '~' :: rest => some (r, '~' :: '~' :: rest)
    | '[' :: rest =>
      match readNamedSet rest with
      | some (set, negated, rest) => do
        let set ← f.negate? negated (f.fold set)
        readUnion steps f (r.add set 0) rest
      | none => do
        let (set, depth, rest) ← readSet steps f rest
        readUnion steps f (r.add set depth) rest
    | cs => do
      let (set, rest) ← readSetItem f cs
      readUnion steps f (r.add set 0) rest

/-- Reads the operations after a union and the closing bracket. -/
def readOperations : Nat → Flags → CharSet → Nat → List Char → Option (CharSet × Nat × List Char)
  | 0, _, _, _, _ => none
  | steps + 1, f, left, depth, cs =>
    match cs with
    | ']' :: rest => some (left, depth, rest)
    | sign :: _ :: rest => do
      let (right, rest) ← readUnion steps f {} rest
      let a := f.fold left
      let b := f.fold right.set
      let set : CharSet :=
        if sign = '&' then a.intersection b
        else if sign = '-' then a.difference b
        else (a.union b).difference (a.intersection b)
      readOperations steps f set (max depth right.nesting + 1) rest
    | _ => none

end

end Regex
end Pattern
end BrokerGuard
