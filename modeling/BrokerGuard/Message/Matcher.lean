import BrokerGuard.Message.Basic
import BrokerGuard.Access.RuleSource
/-!
# Message matchers

The keys of the inbound rules: every message, messages without a destination, messages of some types, or messages whose
destination matches a pattern and that perhaps are of one type.
-/
namespace BrokerGuard

/-- Says which messages a rule applies to. -/
inductive MessageMatcher where
  | any
  | nullDestination
  | types (types : List MessageType)
  | destination (pattern : Pattern.Ant) (type : Option MessageType)
  deriving DecidableEq, Repr

namespace MessageMatcher

/-- Messages of any type to a destination that matches the pattern. -/
def ofPattern (source : String) : MessageMatcher := destination (.ofSource source) none

/-- The matcher applies to the message. -/
def applies : MessageMatcher → Message → Bool
  | any, _ => true
  | nullDestination, m => m.destination.isNone
  | types ts, m => ts.contains m.type
  | destination pattern type, m =>
    (match type with
      | some t => t == m.type
      | none => true) &&
    (match m.destination with
      | some d => pattern.accepts d
      | none => false)

/-- The display of a matcher. -/
def display : MessageMatcher → String
  | any => "AnyMessage"
  | nullDestination => "NullDestination"
  | types ts => "SimpMessageType [types=" ++ String.intercalate ", " (ts.map MessageType.name) ++ "]"
  | destination pattern type =>
    "SimpDestination [pattern='" ++ pattern.source ++ "'" ++
      (match type with
        | some t => ", type=" ++ t.name
        | none => "") ++ "]"

instance : ToString MessageMatcher := ⟨display⟩

end MessageMatcher

/-- Parsed rules for messages. -/
abbrev MessageRules := RuleMap MessageMatcher

namespace MessageRules

/-- The attributes of the first rule that applies to the message. -/
def forMessage (rules : MessageRules) (m : Message) : Option (List Attribute) := rules.findFirst (·.applies m)

end MessageRules
end BrokerGuard
