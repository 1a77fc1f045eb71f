import BrokerGuard.Http.Request
/-!
# Sockets

A request asks for a socket by four headers, and an open socket carries frames.  `socketRefusal?` is the server's test of
a request, `askingForSocket` the request of a client that wants one.
-/
namespace BrokerGuard

/-- A frame that a client sends over an open socket. -/
inductive ClientFrame where
  | text (text : String)
  | ping (payload : String)
  deriving DecidableEq, Repr

namespace ClientFrame

/-- The greatest number of bytes in a ping. -/
def pingLimit : Nat := 125

/-- The greatest number of bytes in a text. -/
def textLimit : Nat := 65536

/-- The frame is no longer than the protocol and the server allow. -/
def isSound : ClientFrame → Bool
  | .text content => decide (content.utf8ByteSize ≤ textLimit)
  | .ping payload => decide (payload.utf8ByteSize ≤ pingLimit)

end ClientFrame

/-- A frame that the server sends over an open socket. -/
inductive ServerFrame where
  | text (text : String)
  | pong (payload : String)
  | close
  deriving DecidableEq, Repr

namespace HttpRequest

/-- The characters hold the word somewhere. -/
def holds (word : List Char) : List Char → Bool
  | [] => word.isEmpty
  | c :: cs => word.isPrefixOf (c :: cs) || holds word cs

/-- The header holds the word, in any letter case. -/
def mentions (r : HttpRequest) (header word : String) : Bool :=
  match r.headerText? header with
  | some value => holds word.toList (value.toList.map Char.toLower)
  | none => false

/-- The items that the readable values of a header list, between commas and without blanks around them. -/
def listed (r : HttpRequest) (header : String) : List (List Char) :=
  (r.headerValues header).flatMap fun value =>
    match value.text? with
    | some text => (Text.splitAt (· == ',') text.toList).map Text.trim
    | none => []

/-- The header lists the item, in any letter case. -/
def lists (r : HttpRequest) (header item : String) : Bool := (r.listed header).any (Text.eqIgnoringCase item.toList)

/-- The connection is to be switched to another protocol, and not to be closed. -/
def switchesConnection (r : HttpRequest) : Bool := r.lists "connection" "upgrade" && !r.lists "connection" "close"

/-- A character of a number in base sixty-four. -/
def isBase64 (c : Char) : Bool := c.isAlphanum || c == '+' || c == '/'

/-- The bytes write a number of a hundred and twenty-eight bits in base sixty-four: twenty-two characters, of whose last
only the two upper bits count, and two equals signs. -/
def isSocketKey (key : HeaderValue) : Bool :=
  let cs := key.bytes.map fun b => Char.ofNat b.toNat
  let digits := cs.take 22
  decide (digits.length = 22) && digits.all isBase64 && cs.drop 22 == ['=', '='] &&
    ['A', 'Q', 'g', 'w'].contains (digits.getLast?.getD '=')

/-- The status with which the server refuses to open a socket, if it does: what is missing or wrong makes a bad request,
and another version of the protocol asks for an upgrade. -/
def socketRefusal? (r : HttpRequest) : Option Nat :=
  if !r.mentions "upgrade" "websocket" || !r.switchesConnection then some 400
  else match r.header? "sec-websocket-version" with
    | none => some 400
    | some version =>
      if version ≠ .ofText "13" then some 426
      else match r.header? "sec-websocket-key" with
        | none => some 400
        | some key => if isSocketKey key then none else some 400

/-- The headers that ask for a socket; the key is any sixteen bytes. -/
def socketHeaders : List (String × HeaderValue) :=
  [("Upgrade", .ofText "websocket"), ("Connection", .ofText "Upgrade"), ("Sec-WebSocket-Version", .ofText "13"),
   ("Sec-WebSocket-Key", .ofText "dGhlIHNhbXBsZSBub25jZQ==")]

/-- The request with the headers that ask for a socket. -/
def askingForSocket (r : HttpRequest) : HttpRequest := { r with headers := r.headers ++ socketHeaders }

end HttpRequest
end BrokerGuard
