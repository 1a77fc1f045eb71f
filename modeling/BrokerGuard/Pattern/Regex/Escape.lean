import BrokerGuard.Pattern.Regex.Property
import BrokerGuard.Json.Reader
/-!
# Escapes in regular expressions

What stands for what after a backslash: a letter for a set of characters, for a control character or for a place, a
hexadecimal number for the character it numbers, the name of a property for the characters with it, and a sign for itself.
-/
namespace BrokerGuard
namespace Pattern
namespace Regex

open Text (CharSet)

/-- What a character or an escape stands for. -/
inductive Atom where
  | char (c : Char)
  | set (members : CharSet)
  | place (anchor : Anchor)
  deriving DecidableEq, Repr

/-- Reads what stands in braces, after the opening one; blanks and comments are left out when they may stand there. -/
def readBraced (verbose inComment : Bool) : List Char → Option (List Char × List Char)
  | [] => none
  | c :: cs =>
    if inComment then readBraced verbose (c != '\n') cs
    else if verbose && Text.isWhiteSpace c then readBraced verbose false cs
    else if verbose && c == '#' then readBraced verbose true cs
    else if c = '\x7d' then some ([], cs)
    else (readBraced verbose false cs).map fun r => (c :: r.1, r.2)

/-- The value of hexadecimal digits. -/
def hexValue? (digits : List Char) : Option Nat :=
  if digits.isEmpty then none
  else digits.foldl (fun acc c => do let n ← acc; let d ← Json.hexDigit? c; pure (n * 16 + d)) (some 0)

/-- The character of a scalar value. -/
def scalar? (n : Nat) : Option Char :=
  if n < 0xD800 ∨ (0xDFFF < n ∧ n ≤ 0x10FFFF) then some (Char.ofNat n) else none

/-- Reads `count` digits. -/
def readHexDigits (f : Flags) : Nat → List Char → Option (List Char × List Char)
  | 0, cs => some ([], cs)
  | count + 1, c :: cs => (readHexDigits f count (f.skip cs)).map fun r => (c :: r.1, r.2)
  | _ + 1, [] => none

/-- Reads the number of a character: digits in braces, or exactly `count` of them.  Without Unicode, two digits number a
byte, and a byte above the ASCII characters is no character. -/
def readHex (f : Flags) (count : Nat) (cs : List Char) : Option (Char × List Char) :=
  match f.skip cs with
  | '\x7b' :: rest => do
    let (digits, rest) ← readBraced f.verbose false rest
    let c ← (hexValue? digits).bind scalar?
    pure (c, f.skip rest)
  | cs => do
    let (digits, rest) ← readHexDigits f count cs
    let c ← (hexValue? digits).bind scalar?
    if count = 2 ∧ !f.unicode ∧ 128 ≤ c.toNat then none else pure (c, rest)

/-- The control character of a letter. -/
def controlLetter? : Char → Option Char
  | 'n' => some '\n'
  | 't' => some '\t'
  | 'r' => some '\r'
  | 'f' => some '\x0c'
  | 'v' => some '\x0b'
  | 'a' => some '\x07'
  | _ => none

/-- The set of a letter; a capital letter stands for the complement. -/
def setLetter? (f : Flags) : Char → Option CharSet
  | 'd' => some f.digits
  | 'D' => f.negate? true f.digits
  | 'w' => some f.letters
  | 'W' => f.negate? true f.letters
  | 's' => some f.spaces
  | 'S' => f.negate? true f.spaces
  | _ => none

/-- The place of a letter or sign. -/
def placeLetter? (f : Flags) : Char → Option Anchor
  | 'A' => some .textStart
  | 'z' => some .textStop
  | 'b' => some (.edge .either f.unicode)
  | 'B' => some (.edge .neither f.unicode)
  | '<' => some (.edge .start f.unicode)
  | '>' => some (.edge .stop f.unicode)
  | _ => none

/-- The word edge of a name. -/
def edgeName? (name : String) : Option WordEdge :=
  if name = "start" then some .start
  else if name = "end" then some .stop
  else if name = "start-half" then some .openStart
  else if name = "end-half" then some .openStop
  else none

/-- Reads the name in braces that may follow the letter of a word edge.  A brace with a number in it belongs to a
repetition. -/
def readEdge (f : Flags) (cs : List Char) : Option (Anchor × List Char) :=
  let plain := some (.edge .either f.unicode, cs)
  match cs with
  | '\x7b' :: rest =>
    match f.skip rest with
    | [] => none
    | c :: _ =>
      if c.isAlpha || c == '-' then do
        let (name, rest) ← readBraced f.verbose false rest
        let kind ← edgeName? (String.ofList name)
        pure (.edge kind f.unicode, rest)
      else plain
  | _ => plain

/-- Reads the property that follows the letter for it: a letter, or what stands in braces.  The set has its case variants
before its complement is taken. -/
def readProperty (f : Flags) (negated : Bool) (cs : List Char) : Option (CharSet × List Char) := do
  let (set, other, rest) ← match f.skip cs with
    | '\x7b' :: rest => do
      let (content, rest) ← readBraced f.verbose false rest
      let (set, other) ← bracedSet? content
      pure (set, other, rest)
    | '\\' :: _ => none
    | c :: rest => (propertySet? [c]).map fun set => (set, false, rest)
    | [] => none
  if f.unicode then
    let set ← f.negate? (negated != other) (f.fold set)
    pure (set, rest)
  else none

/-- A sign that a backslash makes stand for itself. -/
def isEscapable (c : Char) : Bool := decide (c.toNat < 128) && !c.isAlphanum

/-- Reads an escape, after its backslash. -/
def readEscape (f : Flags) : List Char → Option (Atom × List Char)
  | 'x' :: rest => (readHex f 2 rest).map fun r => (.char r.1, r.2)
  | 'u' :: rest => (readHex f 4 rest).map fun r => (.char r.1, r.2)
  | 'U' :: rest => (readHex f 8 rest).map fun r => (.char r.1, r.2)
  | 'p' :: rest => (readProperty f false rest).map fun r => (.set r.1, r.2)
  | 'P' :: rest => (readProperty f true rest).map fun r => (.set r.1, r.2)
  | 'b' :: rest => (readEdge f rest).map fun r => (.place r.1, r.2)
  | c :: rest =>
    match placeLetter? f c, setLetter? f c, controlLetter? c with
    | some anchor, _, _ => some (.place anchor, rest)
    | none, some set, _ => some (.set set, rest)
    | none, none, some control => some (.char control, rest)
    | none, none, none => if isEscapable c then some (.char c, rest) else none
  | [] => none

end Regex
end Pattern
end BrokerGuard
