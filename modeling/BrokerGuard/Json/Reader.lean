import BrokerGuard.Json.Basic
/-!
# Reading JSON text

The strict grammar: one value and nothing after it but blanks, no trailing commas, no superfluous zeros, no raw control
characters and no halves of surrogate pairs in strings.  Values nest as deep as the text allows; the readers of values and
of lists take the number of remaining steps, and a text never needs more than three for each of its characters.

A reader that is `loose` reads what will be ignored: there half of a surrogate pair stands for no character in particular.
A fraction counts by its leading digits, as many as sixty-four bits hold.
-/
namespace BrokerGuard
namespace Json

/-- Skips blanks. -/
def skipBlanks (cs : List Char) : List Char :=
  cs.dropWhile fun c => c == ' ' || c == '\n' || c == '\r' || c == '\t'

/-- The value of a hexadecimal digit. -/
def hexDigit? (c : Char) : Option Nat :=
  if '0' ≤ c ∧ c ≤ '9' then some (c.toNat - '0'.toNat)
  else if 'a' ≤ c ∧ c ≤ 'f' then some (c.toNat - 'a'.toNat + 10)
  else if 'A' ≤ c ∧ c ≤ 'F' then some (c.toNat - 'A'.toNat + 10)
  else none

/-- The value of four hexadecimal digits. -/
def hex4? (a b c d : Char) : Option Nat := do
  let a ← hexDigit? a
  let b ← hexDigit? b
  let c ← hexDigit? c
  let d ← hexDigit? d
  pure (((a * 16 + b) * 16 + c) * 16 + d)

/-- The character of an escape with a single letter. -/
def escapeLetter? (c : Char) : Option Char :=
  if c = '"' ∨ c = '\\' ∨ c = '/' then some c
  else if c = 'b' then some '\x08'
  else if c = 'f' then some '\x0c'
  else if c = 'n' then some '\n'
  else if c = 'r' then some '\r'
  else if c = 't' then some '\t'
  else none

/-- Reads a string after its opening quote: its characters and the text after the closing quote. -/
def readString (loose : Bool) : List Char → Option (List Char × List Char)
  | [] => none
  | '"' :: rest => some ([], rest)
  | '\\' :: 'u' :: a :: b :: c :: d :: rest => do
    let unit ← hex4? a b c d
    if loose ∧ 0xD800 ≤ unit ∧ unit ≤ 0xDFFF then
      let (cs, rest) ← readString loose rest
      pure ('\ufffd' :: cs, rest)
    else if 0xDC00 ≤ unit ∧ unit ≤ 0xDFFF then none
    else if 0xD800 ≤ unit ∧ unit ≤ 0xDBFF then
      match rest with
      | '\\' :: 'u' :: e :: f :: g :: h :: rest => do
        let low ← hex4? e f g h
        if 0xDC00 ≤ low ∧ low ≤ 0xDFFF then
          let (cs, rest) ← readString loose rest
          pure (Char.ofNat (0x10000 + (unit - 0xD800) * 0x400 + (low - 0xDC00)) :: cs, rest)
        else none
      | _ => none
    else
      let (cs, rest) ← readString loose rest
      pure (Char.ofNat unit :: cs, rest)
  | '\\' :: c :: rest => do
    let c ← escapeLetter? c
    let (cs, rest) ← readString loose rest
    pure (c :: cs, rest)
  | c :: rest =>
    if c.toNat < 0x20 ∨ c = '\\' then none
    else do
      let (cs, rest) ← readString loose rest
      pure (c :: cs, rest)

/-- The number that digits write. -/
def digitsValue (digits : List Char) : Nat := digits.foldl (fun n c => n * 10 + (c.toNat - '0'.toNat)) 0

/-- Splits off the leading digits. -/
def splitDigits (cs : List Char) : List Char × List Char := (cs.takeWhile Char.isDigit, cs.dropWhile Char.isDigit)

/-- Reads the part of a number after the point; no part when there is no point. -/
def readFraction : List Char → Option (Option (List Char) × List Char)
  | '.' :: rest =>
    let (digits, rest) := splitDigits rest
    if digits.isEmpty then none else some (some digits, rest)
  | cs => some (none, cs)

/-- Reads the sign and the digits of an exponent. -/
def readExponentDigits : List Char → Option (Int × List Char)
  | '+' :: rest => unsigned rest
  | '-' :: rest => (unsigned rest).map fun r => (-r.1, r.2)
  | cs => unsigned cs
where
  /-- Reads digits without a sign. -/
  unsigned (cs : List Char) : Option (Int × List Char) :=
    let (digits, rest) := splitDigits cs
    if digits.isEmpty then none else some (Int.ofNat (digitsValue digits), rest)

/-- Reads the exponent of a number; none when there is no exponent mark. -/
def readExponent : List Char → Option (Option Int × List Char)
  | 'e' :: rest => (readExponentDigits rest).map fun r => (some r.1, r.2)
  | 'E' :: rest => (readExponentDigits rest).map fun r => (some r.1, r.2)
  | cs => some (none, cs)

/-- Appends digits to a number as long as it stays below `2 ^ 64`: the number, and how many digits are left over. -/
def appendDigits (n : Nat) : List Char → Nat × Nat
  | [] => (n, 0)
  | c :: cs =>
    let longer := n * 10 + (c.toNat - '0'.toNat)
    if longer < UInt64.size then appendDigits longer cs else (n, cs.length + 1)

/-- A number is an integer when it is written as one and fits sixty-four bits, with or without a sign; a negative zero is
not an integer.  Digits before the point that are left over count in the exponent, those after it not at all. -/
def mkNumber (negative : Bool) (whole : List Char) (fraction : Option (List Char)) (exponent : Option Int) : JsonNumber :=
  let (n, surplus) := appendDigits 0 whole
  match fraction, exponent with
  | none, none =>
    if surplus ≠ 0 then .decimal negative n surplus
    else if negative then
      if 0 < n ∧ n ≤ Nat.pow 2 63 then .integer (-(Int.ofNat n)) else .decimal true n 0
    else .integer (Int.ofNat n)
  | fraction, exponent =>
    let places := fraction.getD []
    let (n, rest) := appendDigits n places
    .decimal negative n (exponent.getD 0 + Int.ofNat surplus - Int.ofNat (places.length - rest))

/-- Reads a number after its sign. -/
def readUnsigned (negative : Bool) (cs : List Char) : Option (JsonNumber × List Char) :=
  let (whole, rest) := splitDigits cs
  if whole.isEmpty then none
  else if whole.head? = some '0' ∧ whole.length ≠ 1 then none
  else do
    let (fraction, rest) ← readFraction rest
    let (exponent, rest) ← readExponent rest
    pure (mkNumber negative whole fraction exponent, rest)

/-- Reads a number. -/
def readNumber : List Char → Option (JsonNumber × List Char)
  | '-' :: rest => readUnsigned true rest
  | cs => readUnsigned false cs

mutual

/-- Reads a value. -/
def readValue (loose : Bool) : Nat → List Char → Option (Json × List Char)
  | 0, _ => none
  | steps + 1, cs =>
    match skipBlanks cs with
    | 'n' :: 'u' :: 'l' :: 'l' :: rest => some (.null, rest)
    | 't' :: 'r' :: 'u' :: 'e' :: rest => some (.bool true, rest)
    | 'f' :: 'a' :: 'l' :: 's' :: 'e' :: rest => some (.bool false, rest)
    | '"' :: rest => (readString loose rest).map fun r => (.string (String.ofList r.1), r.2)
    | '[' :: rest =>
      match skipBlanks rest with
      | ']' :: rest => some (.array [], rest)
      | rest => (readItems loose steps rest).map fun r => (.array r.1, r.2)
    | '\x7b' :: rest => (readObject loose (fun _ => false) steps rest).map fun r => (.object r.1, r.2)
    | cs => (readNumber cs).map fun r => (.number r.1, r.2)

/-- Reads the items of an array and its closing bracket. -/
def readItems (loose : Bool) : Nat → List Char → Option (List Json × List Char)
  | 0, _ => none
  | steps + 1, cs => do
    let (item, rest) ← readValue loose steps cs
    match skipBlanks rest with
    | ']' :: rest => pure ([item], rest)
    | ',' :: rest =>
      let (items, rest) ← readItems loose steps rest
      pure (item :: items, rest)
    | _ => none

/-- Reads the members of an object, after its opening brace, and its closing brace. -/
def readObject (loose : Bool) (isLoose : String → Bool) : Nat → List Char → Option (List (String × Json) × List Char)
  | 0, _ => none
  | steps + 1, cs =>
    match skipBlanks cs with
    | '\x7d' :: rest => some ([], rest)
    | cs => readMembers loose isLoose steps cs

/-- Reads the members of an object that has some; those that `isLoose` names are read loosely. -/
def readMembers (loose : Bool) (isLoose : String → Bool) : Nat → List Char → Option (List (String × Json) × List Char)
  | 0, _ => none
  | steps + 1, cs =>
    match skipBlanks cs with
    | '"' :: rest => do
      let (name, rest) ← readString loose rest
      let name := String.ofList name
      match skipBlanks rest with
      | ':' :: rest =>
        let (value, rest) ← readValue (loose || isLoose name) steps rest
        let member := (name, value)
        match skipBlanks rest with
        | '\x7d' :: rest => pure ([member], rest)
        | ',' :: rest =>
          let (members, rest) ← readMembers loose isLoose steps rest
          pure (member :: members, rest)
        | _ => none
      | _ => none
    | _ => none

end

/-- Enough steps for a text. -/
def stepsFor (cs : List Char) : Nat := 3 * cs.length + 3

/-- What was read, when nothing but blanks follows. -/
def complete? {α : Type} : Option (α × List Char) → Option α
  | some (value, rest) => if (skipBlanks rest).isEmpty then some value else none
  | none => none

/-- The value that a text writes. -/
def ofText (text : String) : Option Json := complete? (readValue false (stepsFor text.toList) text.toList)

/-- The record that a text writes.  Of the members of its object, those that are no fields will be ignored. -/
def ofRecordText (fields : List String) (text : String) : Option Json :=
  match skipBlanks text.toList with
  | '\x7b' :: rest =>
    (complete? (readObject false (fun name => !fields.contains name) (stepsFor rest) rest)).map object
  | _ => ofText text

end Json
end BrokerGuard
