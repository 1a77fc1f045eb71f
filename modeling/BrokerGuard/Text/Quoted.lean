import BrokerGuard.Text.Property
/-!
# Quoted texts and the display of records

`quoted` writes a text between double quotes so that every character of it can be told from its neighbours.  `listing` and
`record` lay out the values of a list and of named fields.
-/
namespace BrokerGuard
namespace Text

/-- What stands for one character inside the quotes. -/
def quotedChar (c : Char) : List Char :=
  if c = '"' then ['\\', '"']
  else if c = '\\' then ['\\', '\\']
  else if c = '\t' then ['\\', 't']
  else if c = '\n' then ['\\', 'n']
  else if c = '\r' then ['\\', 'r']
  else if c.toNat = 0 then ['\\', '0']
  else if isHidden c then ['\\', 'u', '\x7b'] ++ Nat.toDigits 16 c.toNat ++ ['\x7d']
  else [c]

/-- A text in double quotes. -/
def quoted (s : String) : String := String.ofList ('"' :: s.toList.flatMap quotedChar ++ ['"'])

/-- Items between brackets, separated by a comma and a blank. -/
def listing (items : List String) : String := "[" ++ String.intercalate ", " items ++ "]"

/-- Texts quoted one by one, as a list. -/
def quotedList (items : List String) : String := listing (items.map quoted)

/-- A named record with its fields in order. -/
def record (name : String) (fields : List (String × String)) : String :=
  name ++ " \x7b " ++ String.intercalate ", " (fields.map fun f => f.1 ++ ": " ++ f.2) ++ " \x7d"

/-- Keys and values between braces. -/
def association (entries : List (String × String)) : String :=
  "\x7b" ++ String.intercalate ", " (entries.map fun e => e.1 ++ ": " ++ e.2) ++ "\x7d"

end Text
end BrokerGuard
