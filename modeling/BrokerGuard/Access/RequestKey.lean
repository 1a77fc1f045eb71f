import BrokerGuard.Access.RuleSource
import BrokerGuard.Access.Decision
import BrokerGuard.Pattern.Regex.Parser
/-!
# Request keys

The keys of URL rules: a path pattern or a regular expression for the whole path, perhaps for one method only.  The text of
a regular expression is put into a group between anchors, and it is this longer text that is read.

Two keys are equal when they are of one kind and their texts and methods agree; a key of a regular expression carries the
expression that its text determines.
-/
namespace BrokerGuard

/-- What a URL rule is asked about: the method and the path of a request. -/
structure RequestTarget where
  method : String
  path : String
  deriving DecidableEq, Repr

namespace RequestTarget

/-- What expressions see of a request. -/
def context (t : RequestTarget) (user : Option User) : EvaluationContext :=
  { user := user, requestPath := some t.path, requestMethod := some t.method }

instance : Describable RequestTarget := ⟨context⟩

end RequestTarget

/-- The text between anchors. -/
def anchored (source : String) : List Char := "^(?:".toList ++ source.toList ++ ")$".toList

/-- A text whose anchored form is a regular expression. -/
structure AnchoredRegex where
  source : String
  program : Pattern.Regex
  reads : Pattern.Regex.ofText? (anchored source) = some program

namespace AnchoredRegex

instance : DecidableEq AnchoredRegex := fun a b =>
  if h : a.source = b.source then
    .isTrue (by
      obtain ⟨s, p, hp⟩ := a
      obtain ⟨t, q, hq⟩ := b
      cases h
      have hpq : p = q := Option.some.inj (hp.symm.trans hq)
      cases hpq
      rfl)
  else .isFalse fun e => h (by rw [e])

/-- The anchored expression of a text. -/
def ofSource? (source : String) : Option AnchoredRegex :=
  match h : Pattern.Regex.ofText? (anchored source) with
  | some program => some ⟨source, program, h⟩
  | none => none

/-- The path matches. -/
def accepts (r : AnchoredRegex) (path : String) : Bool := r.program.matchesSomewhere path.toList

end AnchoredRegex

/-- How a key describes paths. -/
inductive PathPattern where
  | ant (pattern : Pattern.Ant)
  | regex (pattern : AnchoredRegex)
  deriving DecidableEq

/-- A key of a URL rule. -/
structure RequestKey where
  pattern : PathPattern
  method : Option String := none
  deriving DecidableEq

namespace RequestKey

/-- The key of a path pattern. -/
def ant (source : String) (method : Option String) : RequestKey := ⟨.ant (.ofSource source), method⟩

/-- The key of a regular expression, if the text is one. -/
def regex? (source : String) (method : Option String) : Option RequestKey :=
  (AnchoredRegex.ofSource? source).map fun r => ⟨.regex r, method⟩

/-- The text of the pattern. -/
def source (k : RequestKey) : String :=
  match k.pattern with
  | .ant pattern => pattern.source
  | .regex pattern => pattern.source

/-- The key applies to the request. -/
def applies (k : RequestKey) (t : RequestTarget) : Bool :=
  (match k.method with
    | some method => method == t.method
    | none => true) &&
  (match k.pattern with
    | .ant pattern => pattern.accepts t.path
    | .regex pattern => pattern.accepts t.path)

/-- The display of a key. -/
def display (k : RequestKey) : String :=
  (match k.pattern with
    | .ant _ => "Ant"
    | .regex _ => "Regex") ++ " [pattern='" ++ k.source ++ "'" ++
  (match k.method with
    | some method => ", " ++ method
    | none => "") ++ "]"

instance : ToString RequestKey := ⟨display⟩

end RequestKey

/-- Parsed rules for requests. -/
abbrev RequestRules := RuleMap RequestKey

namespace RequestRules

/-- The attributes of the first rule that applies to the request. -/
def forTarget (rules : RequestRules) (t : RequestTarget) : Option (List Attribute) := rules.findFirst (·.applies t)

end RequestRules

/-- The rules for URLs and the manager that decides by them. -/
structure UrlAuthorizer where
  rules : RequestRules
  manager : DecisionManager RequestTarget := .affirmative (.expression Root.builtin)

namespace UrlAuthorizer

/-- The authorizer of a rule map, its expressions read by the built-in grammar. -/
def ofMap (map : RuleMap RequestKey) : Except ConfigurationError UrlAuthorizer :=
  match map.parse RequestKey.display (some ExpressionParser.standard) with
  | .ok rules => .ok ⟨rules, .affirmative (.expression Root.builtin)⟩
  | .error e => .error e

/-- The decision on a request.  A request that no rule applies to is allowed. -/
def decide (a : UrlAuthorizer) (user : Option User) (t : RequestTarget) : Except AccessDenied Unit :=
  match a.rules.forTarget t with
  | some attributes => a.manager.decide user t attributes
  | none => .ok ()

end UrlAuthorizer
end BrokerGuard
