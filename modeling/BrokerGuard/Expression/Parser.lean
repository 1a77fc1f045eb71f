import BrokerGuard.Expression.Token
/-!
# Reading access expressions

The grammar, weakest operator first:

    or      := and (("or" | "||") and)*
    and     := unary (("and" | "&&") unary)*
    unary   := ("not" | "!") unary | primary
    primary := "true" | "false" | "(" or ")" | name "(" arguments? ")"

The reader is a machine with a stack, one token a step.  `Reading` is what it knows after some tokens: the operands that
wait for their right neighbours, one `Level` for each open parenthesis, and what may come next.  It refuses a token as soon
as no expression can go on with it, so a state stands for a beginning that some expression has.
-/
namespace BrokerGuard
namespace Expression

/-- What waits for an operand inside one pair of parentheses: the left side of an `or`, the left side of an `and`, and the
number of `not`s just before the operand. -/
structure Level where
  disj : Option Expression := none
  conj : Option Expression := none
  negations : Nat := 0
  deriving DecidableEq, Repr

/-- What may come next. -/
inductive Expecting where
  /-- An operand. -/
  | operand
  /-- The parenthesis after a function name. -/
  | opening (name : String) (position : Nat)
  /-- The first argument, or the end of an empty argument list. -/
  | firstArgument (name : String)
  /-- An argument after a comma; earlier ones in reverse order. -/
  | argument (name : String) (args : List String)
  /-- A comma or the end of the argument list. -/
  | separator (name : String) (args : List String)
  /-- An operator, the end of a parenthesis or the end of the text, after a complete operand of an `and`. -/
  | operator (value : Expression)
  deriving DecidableEq, Repr

/-- What the reader knows after some tokens. -/
structure Reading where
  level : Level := {}
  outer : List Level := []
  expecting : Expecting := .operand
  deriving DecidableEq, Repr

/-- Applies `not` so many times. -/
def negate : Nat → Expression → Expression
  | 0, e => e
  | n + 1, e => .neg (negate n e)

/-- The operand of the `and` chain that a primary operand completes. -/
def Level.close (l : Level) (value : Expression) : Expression :=
  match l.conj with
  | none => negate l.negations value
  | some left => .conj left (negate l.negations value)

/-- The value of the level when it ends after the `and` chain `value`. -/
def Level.result (l : Level) (value : Expression) : Expression :=
  match l.disj with
  | none => value
  | some left => .disj left value

/-- A primary operand was read. -/
def Reading.operandRead (r : Reading) (value : Expression) : Reading :=
  { r with level := ⟨r.level.disj, none, 0⟩, expecting := .operator (r.level.close value) }

/-- The error for a token that no expression has here. -/
def Token.unexpected (t : Token) : ParseError := .unexpectedToken t.kind.describe t.position

/-- Reads one token. -/
def Reading.step (r : Reading) (t : Token) : Except ParseError Reading :=
  match r.expecting with
  | .operand =>
    match t.kind with
    | .bool value => .ok (r.operandRead (.literal value))
    | .lparen => .ok ⟨{}, r.level :: r.outer, .operand⟩
    | .not => .ok { r with level := { r.level with negations := r.level.negations + 1 } }
    | .ident name => .ok { r with expecting := .opening name t.position }
    | _ => .error t.unexpected
  | .opening name position =>
    match t.kind with
    | .lparen => .ok { r with expecting := .firstArgument name }
    | _ => .error (.missingArguments name position)
  | .firstArgument name =>
    match t.kind with
    | .rparen => .ok (r.operandRead (.call name []))
    | .str value => .ok { r with expecting := .separator name [value] }
    | .ident value => .ok { r with expecting := .separator name [value] }
    | _ => .error t.unexpected
  | .argument name args =>
    match t.kind with
    | .str value => .ok { r with expecting := .separator name (value :: args) }
    | .ident value => .ok { r with expecting := .separator name (value :: args) }
    | _ => .error t.unexpected
  | .separator name args =>
    match t.kind with
    | .comma => .ok { r with expecting := .argument name args }
    | .rparen => .ok (r.operandRead (.call name args.reverse))
    | _ => .error t.unexpected
  | .operator value =>
    match t.kind with
    | .and => .ok { r with level := ⟨r.level.disj, some value, 0⟩, expecting := .operand }
    | .or => .ok { r with level := ⟨some (r.level.result value), none, 0⟩, expecting := .operand }
    | .rparen =>
      match r.outer with
      | [] => .error t.unexpected
      | enclosing :: outer => .ok (Reading.operandRead ⟨enclosing, outer, .operand⟩ (r.level.result value))
    | _ => .error t.unexpected

/-- The expression, if one may end here. -/
def Reading.finish (r : Reading) : Except ParseError Expression :=
  match r.expecting with
  | .operator value => if r.outer.isEmpty then .ok (r.level.result value) else .error .unexpectedEnd
  | .opening name position => .error (.missingArguments name position)
  | _ => .error .unexpectedEnd

/-- Reads the tokens after those already read. -/
def Reading.run (r : Reading) : List Token → Except ParseError Expression
  | [] => r.finish
  | t :: ts =>
    match r.step t with
    | .ok next => next.run ts
    | .error e => .error e

/-- The expression of a token list. -/
def ofTokens (tokens : List Token) : Except ParseError Expression :=
  if tokens.isEmpty then .error .empty else Reading.run {} tokens

/-- The expression of a text. -/
def ofSource (source : String) : Except ParseError Expression :=
  match tokenize source with
  | .ok tokens => ofTokens tokens
  | .error e => .error e

end Expression

/-- The built-in grammar as a way to read expressions. -/
def ExpressionParser.standard : ExpressionParser := fun source =>
  match Expression.ofSource source with
  | .ok expression => .ok ⟨source, expression⟩
  | .error e => .error e

end BrokerGuard
