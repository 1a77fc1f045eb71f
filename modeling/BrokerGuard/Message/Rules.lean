import BrokerGuard.Message.Matcher
/-!
# Declaring inbound rules

A declaration binds matchers to an access rule, and the rules are collected in the order in which they were declared.  A
change of the separator concerns the patterns declared after it, a change of the expression parser all rules, since
expressions are read when the declaration is complete.
-/
namespace BrokerGuard

/-- What a declaration demands. -/
inductive AccessRule where
  | permitAll
  | denyAll
  | authenticated
  | fullyAuthenticated
  | anonymous
  | hasRole (role : String)
  | hasAnyRole (roles : List String)
  | hasAuthority (authority : String)
  | hasAnyAuthority (authorities : List String)
  /-- An expression of one's own. -/
  | access (expression : String)
  deriving DecidableEq, Repr

/-- Texts between single quotes, separated by commas. -/
def quoteAll (values : List String) : String := String.intercalate "," (values.map fun v => "'" ++ v ++ "'")

/-- The expression that an access rule stands for. -/
def AccessRule.expression : AccessRule → String
  | permitAll => "permitAll()"
  | denyAll => "denyAll()"
  | authenticated => "isAuthenticated()"
  | fullyAuthenticated => "isFullyAuthenticated()"
  | anonymous => "isAnonymous()"
  | hasRole role => "hasRole('" ++ role ++ "')"
  | hasAnyRole roles => "hasAnyRole(" ++ quoteAll roles ++ ")"
  | hasAuthority authority => "hasAuthority('" ++ authority ++ "')"
  | hasAnyAuthority authorities => "hasAnyAuthority(" ++ quoteAll authorities ++ ")"
  | access expression => expression

/-- Which messages a declaration is about. -/
inductive MessageSelector where
  | any
  | nullDestination
  | types (types : List MessageType)
  /-- Destinations that match one of the patterns, perhaps of messages of one type. -/
  | destinations (type : Option MessageType) (patterns : List String)
  | matchers (matchers : List MessageMatcher)
  deriving Repr

/-- One step of a declaration. -/
inductive RuleStep where
  | separator (separator : Char)
  | parser (parser : ExpressionParser)
  | rule (selector : MessageSelector) (rule : AccessRule)

/-- The inbound rules declared so far. -/
structure RuleRegistry where
  mappings : RuleMap MessageMatcher := {}
  parser : ExpressionParser := ExpressionParser.standard
  separator : Char := '/'

namespace RuleRegistry

/-- The matchers that a selector stands for. -/
def select (r : RuleRegistry) : MessageSelector → List MessageMatcher
  | .any => [.any]
  | .nullDestination => [.nullDestination]
  | .types types => [.types types]
  | .destinations type patterns => patterns.map fun p => .destination (.withSeparator p r.separator) type
  | .matchers matchers => matchers

/-- Binds every matcher to the expression. -/
def bind (r : RuleRegistry) (matchers : List MessageMatcher) (expression : String) : RuleRegistry :=
  { r with mappings := matchers.foldl (fun map m => map.insert m [.raw expression]) r.mappings }

/-- Takes one step of a declaration. -/
def declare (r : RuleRegistry) : RuleStep → RuleRegistry
  | .separator separator => { r with separator := separator }
  | .parser parser => { r with parser := parser }
  | .rule selector rule => r.bind (r.select selector) rule.expression

/-- Takes the steps of a declaration in order. -/
def declareAll (r : RuleRegistry) (steps : List RuleStep) : RuleRegistry := steps.foldl declare r

/-- At least one rule was declared. -/
def containsMapping (r : RuleRegistry) : Bool := !r.mappings.isEmpty

/-- The parsed rules. -/
def build (r : RuleRegistry) : Except ConfigurationError MessageRules :=
  r.mappings.parse MessageMatcher.display (some r.parser)

end RuleRegistry
end BrokerGuard
