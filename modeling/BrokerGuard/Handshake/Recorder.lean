import BrokerGuard.Handshake.Basic
import BrokerGuard.Journal
/-!
# Recording handshake interceptors

A recorder writes a line before and after each handshake.  It sets and removes attributes of the session, and then accepts,
rejects or fails as it is told.
-/
namespace BrokerGuard

/-- A handshake interceptor that keeps a journal. -/
structure HandshakeRecorder where
  label : String
  inserted : List (String × Json) := []
  erased : List String := []
  verdict : SessionAttributes → HandshakeVerdict := .accept

namespace HandshakeRecorder

/-- The attributes as the recorder leaves them. -/
def amend (r : HandshakeRecorder) (attributes : SessionAttributes) : SessionAttributes :=
  r.erased.foldl SessionAttributes.erase (r.inserted.foldl (fun a m => a.insert m.1 m.2) attributes)

/-- The recorder as an interceptor. -/
def interceptor (r : HandshakeRecorder) : HandshakeInterceptor Journal where
  name := r.label
  before request attributes := do
    Exchange.lift (Journal.note ("before:" ++ r.label ++ ":" ++ request.path))
    pure (r.verdict (r.amend attributes))
  after _ error := Exchange.lift <| Journal.note <|
    match error with
    | some e => "after:" ++ r.label ++ ":" ++ e.message
    | none => "after:" ++ r.label

end HandshakeRecorder
end BrokerGuard
