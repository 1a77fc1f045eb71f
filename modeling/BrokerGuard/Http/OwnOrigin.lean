import BrokerGuard.Http.Request
/-!
# The server's own origin

Under which scheme and host a client addressed the server.  A proxy reports them in the `Forwarded` headers, or in the
older `X-Forwarded-Proto` and `X-Forwarded-Host`; without a report the request itself says.
-/
namespace BrokerGuard
namespace OwnOrigin

/-- Drops blanks at both ends, and then double quotes. -/
def unquote (cs : List Char) : List Char :=
  (((Text.trim cs).dropWhile (· == '"')).reverse.dropWhile (· == '"')).reverse

/-- A name and a value around the first equals sign. -/
def pair? (cs : List Char) : Option (List Char × List Char) :=
  let cs := Text.trim cs
  let name := cs.takeWhile (· != '=')
  match cs.drop name.length with
  | [] => none
  | _ :: value => some ((Text.trim name).map Char.toLower, unquote value)

/-- The pairs of all `Forwarded` headers in order. -/
def forwardedPairs (r : HttpRequest) : List (List Char × List Char) :=
  (r.headerValues "forwarded").flatMap fun value =>
    match value.text? with
    | some text => (Text.splitAt (fun c => c == ';' || c == ',') text.toList).filterMap pair?
    | none => []

/-- The first value that the `Forwarded` headers give a name. -/
def forwarded? (r : HttpRequest) (name : String) : Option String :=
  ((forwardedPairs r).lookup name.toList).map String.ofList

/-- The text of a header before the first comma. -/
def firstItem? (r : HttpRequest) (name : String) : Option String :=
  (r.headerText? name).map fun text => String.ofList (Text.trim (text.toList.takeWhile (· != ',')))

/-- The first of several answers that is one. -/
def firstSome (answers : List (Option String)) (otherwise : String) : String :=
  match answers.findSome? id with
  | some answer => answer
  | none => otherwise

/-- The scheme under which the server was addressed. -/
def scheme (r : HttpRequest) : String :=
  firstSome [forwarded? r "proto", firstItem? r "x-forwarded-proto", r.uri.scheme] "http"

/-- The host under which the server was addressed. -/
def host (r : HttpRequest) : String :=
  firstSome [forwarded? r "host", firstItem? r "x-forwarded-host", r.headerText? "host", r.uri.authority]
    "localhost:8080"

/-- The server's own origin. -/
def text (r : HttpRequest) : String := scheme r ++ "://" ++ host r

end OwnOrigin
end BrokerGuard
