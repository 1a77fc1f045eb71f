/-!
# Request targets

The target of a request in its parts.  Nothing is decoded: path and query are what is written.
-/
namespace BrokerGuard

/-- The parts of a request target. -/
structure Uri where
  scheme : Option String := none
  authority : Option String := none
  path : String := "/"
  query : Option String := none
  deriving DecidableEq, Repr

namespace Uri

/-- A character that ends the authority. -/
def endsAuthority (c : Char) : Bool := c == '/' || c == '?' || c == '#'

/-- Path and query of the characters after the authority. -/
def ofPathAndQuery (scheme authority : Option String) (cs : List Char) : Uri :=
  let cs := cs.takeWhile (· != '#')
  let path := cs.takeWhile (· != '?')
  let query := match cs.drop path.length with
    | [] => none
    | _ :: query => some (String.ofList query)
  ⟨scheme, authority, if path.isEmpty then "/" else String.ofList path, query⟩

/-- The rest of the characters after the first `://`, and what stands before it. -/
def splitScheme : List Char → Option (List Char × List Char)
  | [] => none
  | ':' :: '/' :: '/' :: rest => some ([], rest)
  | c :: rest => if endsAuthority c then none else (splitScheme rest).map fun r => (c :: r.1, r.2)

/-- A scheme in lower case, if it is one of those of the web. -/
def schemeName (cs : List Char) : String :=
  let lower := cs.map Char.toLower
  String.ofList (if lower = "http".toList ∨ lower = "https".toList then lower else cs)

/-- The parts of a target.  One that has no scheme and does not begin with a slash is an authority alone, without a path;
a star alone is a path. -/
def ofText (text : String) : Uri :=
  let cs := text.toList
  match splitScheme cs with
  | some (scheme, rest) =>
    let authority := rest.takeWhile fun c => !endsAuthority c
    ofPathAndQuery (some (schemeName scheme)) (some (String.ofList authority)) (rest.drop authority.length)
  | none =>
    if cs.head? = some '/' ∨ cs = ['*'] then ofPathAndQuery none none cs
    else { authority := some text, path := "" }

end Uri
end BrokerGuard
