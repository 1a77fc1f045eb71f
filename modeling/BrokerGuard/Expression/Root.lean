import BrokerGuard.Expression.Basic
import BrokerGuard.Pattern.Ant
/-!
# The functions an expression may call

A root answers calls in a context: the user, the message and the request at hand, as far as there are any.  It leaves a
call unanswered when it does not know the function or misses an argument.

The built-in root compiles path patterns.  `PatternCache` keeps the patterns that were compiled; what a call answers does
not depend on it.
-/
namespace BrokerGuard

/-- What an expression is evaluated against. -/
structure EvaluationContext where
  user : Option User := none
  messageType : Option String := none
  destination : Option String := none
  requestPath : Option String := none
  requestMethod : Option String := none
  deriving DecidableEq, Repr

/-- Answers function calls. -/
abbrev Root := String → List String → EvaluationContext → Option Bool

namespace EvaluationContext

/-- The user satisfies the test; without a user nothing does. -/
def userSatisfies (ctx : EvaluationContext) (test : User → Bool) : Bool :=
  match ctx.user with
  | some user => test user
  | none => false

/-- The path is there and the pattern matches it. -/
def pathMatches (pattern : String) : Option String → Bool
  | some path => (Pattern.Ant.ofSource pattern).accepts path
  | none => false

end EvaluationContext

namespace Root

/-- The message type is one of the names, in any ASCII letter case. -/
def isMessageType (types : List String) (ctx : EvaluationContext) : Bool :=
  match ctx.messageType with
  | some type => types.any fun name => Text.eqIgnoringCase name.toList type.toList
  | none => false

/-- The built-in functions. -/
def builtin : Root := fun name args ctx =>
  match name with
  | "hasRole" => args.head?.map fun role => ctx.userSatisfies (·.hasRole role)
  | "hasAnyRole" => some (ctx.userSatisfies (·.hasAnyRole args))
  | "hasAuthority" => args.head?.map fun authority => ctx.userSatisfies (·.hasAuthority authority)
  | "hasAnyAuthority" => some (ctx.userSatisfies (·.hasAnyAuthority args))
  | "isAuthenticated" => some ctx.user.isSome
  | "isFullyAuthenticated" => some ctx.user.isSome
  | "isAnonymous" => some ctx.user.isNone
  | "permitAll" => some true
  | "denyAll" => some false
  | "isMessageType" => some (isMessageType args ctx)
  | "destinationMatches" => args.head?.map fun pattern => EvaluationContext.pathMatches pattern ctx.destination
  | "requestMatches" => args.head?.map fun pattern => EvaluationContext.pathMatches pattern ctx.requestPath
  | _ => none

/-- A root that knows no function. -/
def empty : Root := fun _ _ _ => none

end Root

/-- Compiled patterns by their texts, the latest first. -/
structure PatternCache where
  entries : List (String × Pattern.Ant) := []

namespace PatternCache

/-- Matches through the cache: a pattern that is not there is compiled and kept. -/
def pathMatches (cache : PatternCache) (pattern path : String) : Bool × PatternCache :=
  match cache.entries.lookup pattern with
  | some compiled => (compiled.accepts path, cache)
  | none =>
    let compiled := Pattern.Ant.ofSource pattern
    (compiled.accepts path, ⟨(pattern, compiled) :: cache.entries⟩)

/-- A pattern function: it looks at the cache only when there is a pattern and a path. -/
def patternCall (cache : PatternCache) (pattern path : Option String) : Option Bool × PatternCache :=
  match pattern, path with
  | some pattern, some path =>
    let (answer, cache) := cache.pathMatches pattern path
    (some answer, cache)
  | some _, none => (some false, cache)
  | none, _ => (none, cache)

/-- A call of a built-in function through the cache. -/
def call (cache : PatternCache) (name : String) (args : List String) (ctx : EvaluationContext) :
    Option Bool × PatternCache :=
  if name = "destinationMatches" then cache.patternCall args.head? ctx.destination
  else if name = "requestMatches" then cache.patternCall args.head? ctx.requestPath
  else (Root.builtin name args ctx, cache)

/-- How many patterns were compiled. -/
def size (cache : PatternCache) : Nat := cache.entries.length

end PatternCache
end BrokerGuard
