import BrokerGuard.Pattern.Regex.Set
import BrokerGuard.Pattern.Regex.Automaton
/-!
# Reading regular expressions

The syntax: characters, `.`, sets in brackets, groups with or without capture, alternatives, the repetition marks `*`, `+`,
`?` and `{n,m}` with an optional `?` after them, the anchors `^` and `$`, escapes, and flags for the rest of a group or for
a group of their own.  A mark without an operand, an open group or set, a closing parenthesis too many, a name that is given
twice and a repetition whose least number exceeds its greatest are no expressions; nor is what nests too deep or would
need too large an automaton.

The readers take the number of remaining steps; a text never needs more than four for each of its characters.
-/
namespace BrokerGuard
namespace Pattern
namespace Regex

/-- The deepest nesting of groups, sets, repetitions, alternatives and sequences. -/
def nestingLimit : Nat := 250

/-- An expression as it is read, how deep it nests, and the names of its groups. -/
structure Reading where
  regex : Regex
  depth : Nat := 0
  names : List (List Char) := []

namespace Reading

/-- The repetition of what was read. -/
def repeated (r : Reading) (least : Nat) (most : Option Nat) (greedy : Bool) : Reading :=
  { r with regex := .repetition r.regex least most greedy, depth := r.depth + 1 }

/-- A group of what was read; `label` is that of a group that captures. -/
def grouped (r : Reading) (label : Option Nat) (names : List (List Char)) : Reading :=
  ⟨.group label r.regex, r.depth + 1, names ++ r.names⟩

/-- How deep some readings nest; one alone is no level of nesting. -/
def nesting (readings : List Reading) : Nat :=
  let deepest := readings.foldl (fun depth r => max depth r.depth) 0
  if readings.length ≤ 1 then deepest else deepest + 1

/-- Expressions one after the other. -/
def allOf : List Regex → Regex
  | [] => .empty
  | [r] => r
  | r :: rest => .concat r (allOf rest)

/-- One of some expressions. -/
def anyOf : List Regex → Regex
  | [] => .empty
  | [r] => r
  | r :: rest => .alt r (anyOf rest)

/-- Items one after the other. -/
def ofItems (items : List Reading) : Reading :=
  ⟨allOf (items.map regex), nesting items, items.flatMap names⟩

/-- The alternatives of a group. -/
def ofBranches (branches : List Reading) : Reading :=
  ⟨anyOf (branches.map regex), nesting branches, branches.flatMap names⟩

end Reading

/-- Reads a number and the blanks around it. -/
def readCount (cs : List Char) : Option (Nat × List Char) :=
  let (digits, rest) := Json.splitDigits (cs.dropWhile Text.isWhiteSpace)
  let n := Json.digitsValue digits
  if digits.isEmpty ∨ UInt32.size ≤ n then none else some (n, rest.dropWhile Text.isWhiteSpace)

/-- The bounds of a counted repetition, by what stands between its braces. -/
def bounds? (content : List Char) : Option (Nat × Option Nat) := do
  let (least, rest) ← readCount content
  match rest with
  | [] => pure (least, some least)
  | [','] => pure (least, none)
  | ',' :: rest =>
    let (most, rest) ← readCount rest
    if rest.isEmpty ∧ least ≤ most then pure (least, some most) else none
  | _ => none

/-- Reads the question mark that may follow a repetition mark: whether many rounds are preferred to few. -/
def readGreed (f : Flags) : List Char → Bool × List Char
  | '?' :: rest => (f.swapGreed, rest)
  | cs => (!f.swapGreed, cs)

/-- Reads the repetition marks after an operand. -/
def readMarks : Nat → Flags → Reading → List Char → Option (Reading × List Char)
  | 0, _, _, _ => none
  | steps + 1, f, r, cs => do
    let mark ← match f.skip cs with
      | '*' :: rest => some (some (0, none, rest))
      | '+' :: rest => some (some (1, none, rest))
      | '?' :: rest => some (some (0, some 1, rest))
      | '\x7b' :: rest => do
        let (content, rest) ← readBraced f.verbose false rest
        let (least, most) ← bounds? content
        pure (some (least, most, f.skip rest))
      | _ => some none
    match mark with
    | some (least, most, rest) =>
      let (greedy, rest) := readGreed f rest
      readMarks steps f (r.repeated least most greedy) rest
    | none => pure (r, f.skip cs)

/-- What an opening parenthesis begins. -/
inductive Opening where
  /-- A group with its flags and its name, if it has one; `captures` says that it captures what it matches. -/
  | group (flags : Flags) (captures : Bool) (names : List (List Char))
  /-- Flags for the rest of the enclosing group. -/
  | flags (flags : Flags)

/-- A name of a group: a letter or an underscore, and then also digits, dots and brackets. -/
def isGroupName : List Char → Bool
  | [] => false
  | c :: cs =>
    (c == '_' || Text.isAlphabetic c) &&
      cs.all fun c => c == '_' || c == '.' || c == '[' || c == ']' || Text.isAlphanumeric c

/-- Reads the name of a group. -/
def readName (f : Flags) (cs : List Char) : Option (Opening × List Char) :=
  let name := cs.takeWhile (· != '>')
  match cs.drop name.length with
  | _ :: rest => if isGroupName name then some (.group f true [name], rest) else none
  | [] => none

/-- Reads flags up to the colon of a group or to a closing parenthesis. -/
def readFlags (f : Flags) (cs : List Char) : Option (Opening × List Char) :=
  let letters := cs.takeWhile fun c => c != ':' && c != ')'
  if !Flags.areLetters letters then none
  else match cs.drop letters.length with
    | ':' :: rest => some (.group (f.switchAll true letters) false [], rest)
    | _ :: rest => if letters.isEmpty then none else some (.flags (f.switchAll true letters), rest)
    | [] => none

/-- Reads what follows an opening parenthesis.  Looking around is not part of the syntax. -/
def readOpening (f : Flags) (cs : List Char) : Option (Opening × List Char) :=
  match f.skip cs with
  | '?' :: '<' :: '=' :: _ => none
  | '?' :: '<' :: '!' :: _ => none
  | '?' :: '<' :: rest => readName f rest
  | '?' :: 'P' :: '<' :: rest => readName f rest
  | '?' :: rest => readFlags f rest
  | rest => some (.group f true [], rest)

/-- The expression of an atom. -/
def Atom.regex (f : Flags) : Atom → Regex
  | .char c => .chars (f.literal c) f.unicode
  | .set members => .chars members f.unicode
  | .place anchor => .place anchor

/-- Reads an operand that is no group. -/
def readOperand (steps : Nat) (f : Flags) : List Char → Option (Reading × List Char)
  | '[' :: rest => (readSet steps f rest).map fun r => (⟨.chars r.1 f.unicode, r.2.1, []⟩, r.2.2)
  | '\\' :: rest => (readEscape f rest).map fun r => (⟨r.1.regex f, 0, []⟩, r.2)
  | '^' :: rest => some (⟨.place f.start, 0, []⟩, rest)
  | '$' :: rest => some (⟨.place f.stop, 0, []⟩, rest)
  | '.' :: rest => f.dot?.map fun set => (⟨.chars set f.unicode, 0, []⟩, rest)
  | c :: rest =>
    if c = '*' ∨ c = '+' ∨ c = '?' ∨ c = '\x7b' then none else some (⟨(Atom.char c).regex f, 0, []⟩, rest)
  | [] => none

mutual

/-- Reads alternatives up to the end of their group; `earlier` are those already read, the last one first. -/
def readAlternatives : Nat → Flags → List Reading → List Char → Option (Reading × List Char)
  | 0, _, _, _ => none
  | steps + 1, f, earlier, cs => do
    let (branch, f, rest) ← readSequence steps f [] cs
    match rest with
    | '|' :: rest => readAlternatives steps f (branch :: earlier) rest
    | rest => pure (.ofBranches (branch :: earlier).reverse, rest)

/-- Reads one alternative; `items` is what was read of it, the last item first.  Flags that it sets hold for those after
it. -/
def readSequence : Nat → Flags → List Reading → List Char → Option (Reading × Flags × List Char)
  | 0, _, _, _ => none
  | steps + 1, f, items, cs =>
    match f.skip cs with
    | [] => some (.ofItems items.reverse, f, [])
    | '|' :: rest => some (.ofItems items.reverse, f, '|' :: rest)
    | ')' :: rest => some (.ofItems items.reverse, f, ')' :: rest)
    | '(' :: rest => do
      match ← readOpening f rest with
      | (.group inner captures names, rest) =>
        let label := if captures then some rest.length else none
        let (body, rest) ← readAlternatives steps inner [] rest
        match rest with
        | ')' :: rest =>
          let (operand, rest) ← readMarks steps f (body.grouped label names) rest
          readSequence steps f (operand :: items) rest
        | _ => none
      | (.flags inner, rest) => readSequence steps inner (⟨.empty, 0, []⟩ :: items) rest
    | cs => do
      let (operand, rest) ← readOperand steps f cs
      let (operand, rest) ← readMarks steps f operand rest
      readSequence steps f (operand :: items) rest

end

/-- What was read is an expression. -/
def Reading.isSound (r : Reading) : Bool :=
  decide (r.depth ≤ nestingLimit) && decide r.names.Nodup && r.regex.blueprint.isBuildable

/-- The expression that a text writes. -/
def ofText? (text : List Char) : Option Regex :=
  match readAlternatives (4 * text.length + 4) {} [] text with
  | some (r, []) => if r.isSound then some r.regex else none
  | _ => none

end Regex
end Pattern
end BrokerGuard
