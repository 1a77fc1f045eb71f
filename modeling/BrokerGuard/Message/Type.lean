import BrokerGuard.Json.Encode
import BrokerGuard.Json.Decode
import BrokerGuard.Text.Case
/-!
# Message types

The types of messages, their names, and the two ways to read them: `ofName?` takes any ASCII letter case and the names of
frames that mean the same, `ofJson?` takes the exact name only.
-/
namespace BrokerGuard

/-- The type of a message. -/
inductive MessageType where
  | connect
  | connectAck
  | message
  | subscribe
  | unsubscribe
  | heartbeat
  | disconnect
  | disconnectAck
  | other
  deriving DecidableEq, Repr

namespace MessageType

/-- Every message type. -/
def all : List MessageType :=
  [connect, connectAck, message, subscribe, unsubscribe, heartbeat, disconnect, disconnectAck, other]

/-- The name of a message type. -/
def name : MessageType → String
  | connect => "CONNECT"
  | connectAck => "CONNECT_ACK"
  | message => "MESSAGE"
  | subscribe => "SUBSCRIBE"
  | unsubscribe => "UNSUBSCRIBE"
  | heartbeat => "HEARTBEAT"
  | disconnect => "DISCONNECT"
  | disconnectAck => "DISCONNECT_ACK"
  | other => "OTHER"

instance : ToString MessageType := ⟨name⟩

/-- The type with exactly this name. -/
def ofExactName? (text : String) : Option MessageType := all.find? fun t => t.name == text

/-- Frame names that are no type names, with the types they stand for. -/
def frameNames : List (String × MessageType) :=
  [("STOMP", connect), ("CONNECTED", connectAck), ("SEND", message)]

/-- The type that a text names, in any ASCII letter case. -/
def ofName? (text : String) : Option MessageType :=
  let upper := Text.upperAscii text
  match ofExactName? upper with
  | some type => some type
  | none => frameNames.lookup upper

/-- The type of a JSON value: its exact name, or an object that binds the name to null. -/
def ofJson? : Json → Option MessageType
  | .string text => ofExactName? text
  | .object [(text, .null)] => ofExactName? text
  | _ => none

instance : Json.Encode MessageType := ⟨fun type => type.name⟩
instance : Json.Decode MessageType := ⟨ofJson?⟩

end MessageType

/-- A text that names no message type. -/
structure UnknownMessageType where
  name : String
  deriving DecidableEq, Repr

/-- The wording for a text that names no message type. -/
def UnknownMessageType.message (e : UnknownMessageType) : String := "Unknown message type '" ++ e.name ++ "'"

/-- Reads the name of a message type. -/
def MessageType.read (text : String) : Except UnknownMessageType MessageType :=
  match ofName? text with
  | some type => .ok type
  | none => .error ⟨text⟩

end BrokerGuard
