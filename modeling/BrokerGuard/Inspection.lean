import BrokerGuard.Endpoint.Mapping
import BrokerGuard.Access.RuleMap
import BrokerGuard.Access.Decision
/-!
# Inspection

Parts of a configuration as values, for an operator to look at: votes, what expressions see, rules with their
keys and attributes, and the handlers of a mapping with the names of their interceptors.
-/
namespace BrokerGuard

/-- The name of a vote. -/
def Vote.name : Vote → String
  | granted => "granted"
  | abstain => "abstain"
  | denied => "denied"

instance : Json.Encode Vote := ⟨fun vote => vote.name⟩

/-- An attribute: its kind, its text, and the raw text if it has one. -/
def Attribute.toJson (a : Attribute) : Json :=
  let kind := match a with
    | raw _ => "security"
    | parsed _ => "expression"
  .object [("kind", kind), ("text", a.text), ("attribute", a.raw?)]

instance : Json.Encode Attribute := ⟨Attribute.toJson⟩

/-- What expressions see. -/
def EvaluationContext.toJson (ctx : EvaluationContext) : Json :=
  .object [("user", ctx.user), ("message_type", ctx.messageType), ("destination", ctx.destination),
    ("request_path", ctx.requestPath), ("request_method", ctx.requestMethod)]

instance : Json.Encode EvaluationContext := ⟨EvaluationContext.toJson⟩

namespace RuleMap

variable {κ : Type}

/-- The entries of a map, keys as they are displayed. -/
def entriesJson (display : κ → String) (map : RuleMap κ) : Json :=
  map.entries.map fun e => [Json.encode (display e.1), Json.encode e.2]

/-- A map of parsed rules: its entries and all attributes. -/
def toJson (display : κ → String) (map : RuleMap κ) : Json :=
  .object [("entries", map.entriesJson display), ("all", map.allAttributes)]

end RuleMap

/-- A mapping: its size, its display, and its handlers. -/
def HandlerMapping.toJson {ω : Type} (m : HandlerMapping ω) : Json :=
  .object [("len", m.size), ("empty", m.isEmpty), ("debug", m.display),
    ("handlers", m.entries.map fun e =>
      Json.object [("pattern", e.1.source), ("handler", e.2.name), ("debug", e.2.display),
        ("interceptors", e.2.interceptors?.map fun chain => chain.map HandshakeInterceptor.name)])]

instance {ω : Type} : Json.Encode (HandlerMapping ω) := ⟨HandlerMapping.toJson⟩

end BrokerGuard
