import BrokerGuard.Expression.Basic
import BrokerGuard.Text.Case
/-!
# Tokens of access expressions

The text is read from left to right, one character a step.  Between two steps stands the lexeme that is still open
(`Pending`): a word, a quoted string, a string just after a backslash, or the first half of `&&` or `||`.  A step may close
the open lexeme, open a new one, or both.  Reading fails at the first character that cannot start a token, at an operator
whose second half is missing, and at a string that is never closed.
-/
namespace BrokerGuard
namespace Expression

/-- What a token is. -/
inductive TokenKind where
  | ident (name : String)
  | str (value : String)
  | lparen
  | rparen
  | comma
  | and
  | or
  | not
  | bool (value : Bool)
  deriving DecidableEq, Repr

/-- A token and the position of its first character. -/
structure Token where
  kind : TokenKind
  position : Nat
  deriving DecidableEq, Repr

/-- How an error names a token. -/
def TokenKind.describe : TokenKind → String
  | ident name => name
  | str value => "'" ++ value ++ "'"
  | lparen => "("
  | rparen => ")"
  | comma => ","
  | and => "and"
  | or => "or"
  | not => "not"
  | bool value => if value then "true" else "false"

/-- A word may start with the character. -/
def startsWord (c : Char) : Bool := Text.isAlphabetic c || c == '_'

/-- A word may go on with the character. -/
def continuesWord (c : Char) : Bool := Text.isAlphanumeric c || c == '_'

/-- The token of a word: a keyword in any letter case, otherwise an identifier. -/
def TokenKind.ofWord (word : List Char) : TokenKind :=
  let folded := word.map Char.toLower
  if folded = ['a', 'n', 'd'] then and
  else if folded = ['o', 'r'] then or
  else if folded = ['n', 'o', 't'] then not
  else if folded = ['t', 'r', 'u', 'e'] then bool true
  else if folded = ['f', 'a', 'l', 's', 'e'] then bool false
  else ident (String.ofList word)

/-- The lexeme that is open between two characters.  Letters read so far stand in reverse order. -/
inductive Pending where
  | none
  | word (start : Nat) (letters : List Char)
  | quoted (start : Nat) (quote : Char) (letters : List Char)
  | escaped (start : Nat) (quote : Char) (letters : List Char)
  | doubled (start : Nat) (half : Char)
  deriving DecidableEq, Repr

/-- Reads the first character of a lexeme: the tokens it completes at once, and the lexeme it leaves open. -/
def Pending.start (position : Nat) (c : Char) : Except ParseError (List Token × Pending) :=
  if Text.isWhiteSpace c then .ok ([], none)
  else if c = '(' then .ok ([⟨.lparen, position⟩], none)
  else if c = ')' then .ok ([⟨.rparen, position⟩], none)
  else if c = ',' then .ok ([⟨.comma, position⟩], none)
  else if c = '!' then .ok ([⟨.not, position⟩], none)
  else if c = '&' ∨ c = '|' then .ok ([], doubled position c)
  else if c = '\'' ∨ c = '"' then .ok ([], quoted position c [])
  else if startsWord c then .ok ([], word position [c])
  else .error (.unexpectedChar c position)

/-- The token of a word whose letters stand in reverse order. -/
def wordToken (start : Nat) (letters : List Char) : Token := ⟨.ofWord letters.reverse, start⟩

/-- Reads one character. -/
def Pending.step (position : Nat) (c : Char) : Pending → Except ParseError (List Token × Pending)
  | none => start position c
  | word first letters =>
    if continuesWord c then .ok ([], word first (c :: letters))
    else match start position c with
      | .ok (tokens, next) => .ok (wordToken first letters :: tokens, next)
      | .error e => .error e
  | quoted first quote letters =>
    if c = quote then .ok ([⟨.str (String.ofList letters.reverse), first⟩], none)
    else if c = '\\' then .ok ([], escaped first quote letters)
    else .ok ([], quoted first quote (c :: letters))
  | escaped first quote letters => .ok ([], quoted first quote (c :: letters))
  | doubled first half =>
    if c = half then .ok ([⟨if half = '&' then .and else .or, first⟩], none)
    else .error (.unexpectedChar half first)

/-- Closes the lexeme that is open at the end of the text. -/
def Pending.finish : Pending → Except ParseError (List Token)
  | none => .ok []
  | word first letters => .ok [wordToken first letters]
  | quoted first _ _ => .error (.unterminatedString first)
  | escaped first _ _ => .error (.unterminatedString first)
  | doubled first half => .error (.unexpectedChar half first)

/-- The tokens of the characters from `position` on, with a lexeme open before them. -/
def scan (position : Nat) (pending : Pending) : List Char → Except ParseError (List Token)
  | [] => pending.finish
  | c :: cs =>
    match pending.step position c with
    | .error e => .error e
    | .ok (tokens, next) =>
      match scan (position + 1) next cs with
      | .error e => .error e
      | .ok rest => .ok (tokens ++ rest)

/-- The tokens of a text. -/
def tokenize (source : String) : Except ParseError (List Token) := scan 0 .none source.toList

end Expression
end BrokerGuard
