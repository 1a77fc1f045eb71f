import BrokerGuard.Handshake.Basic
import BrokerGuard.Http.OwnOrigin
/-!
# Origins

Browsers send cookies along with the request for a socket, so a page of another site could open a socket in the name of its
visitor.  The check compares the origin that the browser reports with the server's own and with a list of allowed ones.  An
entry `*` allows every origin, `*.d` the host `d` and the hosts under it, any other entry itself; letter case, trailing
slashes, `:80` after an `http` host and `:443` after an `https` host do not count.
-/
namespace BrokerGuard

/-- Which origins may open a socket. -/
structure OriginPolicy where
  allowed : List String := []
  allowAny : Bool := false
  requireOrigin : Bool := false
  deriving DecidableEq, Repr

namespace OriginPolicy

/-- Drops trailing slashes. -/
def trimSlashes (cs : List Char) : List Char := (cs.reverse.dropWhile (· == '/')).reverse

/-- Drops the ending, if the characters have it. -/
def dropEnding (ending cs : List Char) : List Char :=
  if ending.isSuffixOf cs then cs.take (cs.length - ending.length) else cs

/-- An origin in lower case, without trailing slashes, `http` without `:80` and `https` without `:443`. -/
def normalize (origin : List Char) : List Char :=
  let origin := (trimSlashes origin).map Char.toLower
  if "http://".toList.isPrefixOf origin then dropEnding ":80".toList origin
  else if "https://".toList.isPrefixOf origin then dropEnding ":443".toList origin
  else origin

/-- What follows the first `://`. -/
def afterScheme? : List Char → Option (List Char)
  | [] => none
  | ':' :: '/' :: '/' :: rest => some rest
  | _ :: rest => afterScheme? rest

/-- The host, with what follows its colon, is the domain or lies under it. -/
def inDomain (domain host : List Char) : Bool := host == domain || ('.' :: domain).isSuffixOf host

/-- One entry of the list allows a normalized origin. -/
def entryAllows (normalized : List Char) (entry : String) : Bool :=
  if entry = "*" then true
  else match trimSlashes entry.toList with
    | '*' :: '.' :: domain =>
      match afterScheme? normalized with
      | some host => inDomain (domain.map Char.toLower) host
      | none => false
    | _ => normalized == normalize entry.toList

/-- The list allows the origin. -/
def allows (p : OriginPolicy) (origin : String) : Bool := p.allowed.any (entryAllows (normalize origin.toList))

/-- The origin is the server's own. -/
def isOwn (r : HttpRequest) (origin : String) : Bool :=
  normalize (OwnOrigin.text r).toList == normalize origin.toList

/-- The check of a request. -/
def check (p : OriginPolicy) (r : HttpRequest) : Except HandshakeError Unit :=
  if p.allowAny then .ok ()
  else match r.headerText? "origin" with
    | none => if p.requireOrigin then .error .missingOrigin else .ok ()
    | some origin => if isOwn r origin || p.allows origin then .ok () else .error (.invalidOrigin origin)

/-- Allows the listed origins and the server's own. -/
def ofList (origins : List String) : OriginPolicy := { allowed := origins }

/-- Allows one more origin. -/
def allow (p : OriginPolicy) (origin : String) : OriginPolicy := { p with allowed := p.allowed ++ [origin] }

/-- Allows more origins. -/
def allowAll (p : OriginPolicy) (origins : List String) : OriginPolicy := { p with allowed := p.allowed ++ origins }

/-- Allows a domain and what lies under it, named with or without a leading `*.`. -/
def allowSubdomains (p : OriginPolicy) (domain : String) : OriginPolicy :=
  if "*.".toList.isPrefixOf domain.toList then p.allow domain else p.allow ("*." ++ domain)

/-- Allows every origin. -/
def allowEvery (p : OriginPolicy) : OriginPolicy := { p with allowAny := true }

/-- Refuses requests that report no origin. -/
def demandOrigin (p : OriginPolicy) : OriginPolicy := { p with requireOrigin := true }

end OriginPolicy

/-- Refuses handshakes of foreign origins. -/
def HandshakeInterceptor.origin {ω : Type} (policy : OriginPolicy) : HandshakeInterceptor ω where
  name := "OriginHandshakeInterceptor"
  before request attributes := pure <|
    match policy.check request with
    | .ok () => .accept attributes
    | .error e => .fail e

end BrokerGuard
