import BrokerGuard.Json.Basic
/-!
# Writing JSON text

The compact form: no blanks, members in their order, and in strings only quotes, backslashes and control characters
escaped.  Fractions are written with a point while the decimal point lies within sixteen digits after, or within five digits
before, the first digit, and with an exponent and its sign otherwise.
-/
namespace BrokerGuard
namespace Json

/-- Two hexadecimal digits of a small number. -/
def hexPair (n : Nat) : List Char := [Nat.digitChar (n / 16), Nat.digitChar (n % 16)]

/-- What stands for one character inside a string. -/
def escapeChar (c : Char) : List Char :=
  if c = '"' then ['\\', '"']
  else if c = '\\' then ['\\', '\\']
  else if c = '\n' then ['\\', 'n']
  else if c = '\r' then ['\\', 'r']
  else if c = '\t' then ['\\', 't']
  else if c.toNat = 8 then ['\\', 'b']
  else if c.toNat = 12 then ['\\', 'f']
  else if c.toNat < 32 then ['\\', 'u', '0', '0'] ++ hexPair c.toNat
  else [c]

/-- A string in its quotes. -/
def quoteString (s : String) : String := String.ofList ('"' :: s.toList.flatMap escapeChar ++ ['"'])

/-- A fraction with the digits `ds`, the decimal point standing `point` places after the start of the digits. -/
def layDecimal (ds : List Char) (point : Int) : List Char :=
  let count := Int.ofNat ds.length
  if count ≤ point ∧ point ≤ 16 then ds ++ List.replicate (point - count).toNat '0' ++ ['.', '0']
  else if 0 < point ∧ point ≤ 16 then ds.take point.toNat ++ '.' :: ds.drop point.toNat
  else if -5 < point ∧ point ≤ 0 then '0' :: '.' :: List.replicate (-point).toNat '0' ++ ds
  else
    let mantissa := match ds with
      | [] => []
      | [d] => [d]
      | d :: rest => d :: '.' :: rest
    mantissa ++ 'e' :: (if 0 < point then ['+'] else []) ++ (toString (point - 1)).toList

/-- The text of a number. -/
def numberText : JsonNumber → String
  | .integer n => toString n
  | .decimal negative digits exponent =>
    let sign := if negative then "-" else ""
    if digits = 0 then sign ++ "0.0"
    else
      let ds := Nat.toDigits 10 digits
      sign ++ String.ofList (layDecimal ds (exponent + Int.ofNat ds.length))

mutual

/-- The compact text of a value. -/
def compact : Json → String
  | null => "null"
  | bool value => if value then "true" else "false"
  | number value => numberText value
  | string value => quoteString value
  | array items => "[" ++ compactItems items ++ "]"
  | object members => "\x7b" ++ compactMembers members ++ "\x7d"

/-- Items separated by commas. -/
def compactItems : List Json → String
  | [] => ""
  | [item] => compact item
  | item :: rest => compact item ++ "," ++ compactItems rest

/-- Members separated by commas. -/
def compactMembers : List (String × Json) → String
  | [] => ""
  | [(name, value)] => quoteString name ++ ":" ++ compact value
  | (name, value) :: rest => quoteString name ++ ":" ++ compact value ++ "," ++ compactMembers rest

end

end Json
end BrokerGuard
