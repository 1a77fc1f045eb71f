import BrokerGuard.Json.Reader
import BrokerGuard.Csrf.Token
/-!
# Transcripts

Random tokens differ from one run to the next.  A transcript names each by a number, in the order in which they first
appear in the bodies of responses, so that two runs can be compared; and a request of a transcript may mention a token by
its name.
-/
namespace BrokerGuard

/-- The random tokens that appeared so far. -/
structure Transcript where
  tokens : List String := []

namespace Transcript

/-- A random token is written with sixty-four lower-case hexadecimal digits. -/
def isRandom (s : String) : Bool := s.length == 64 && s.toList.all fun c => c.isDigit || ('a' ≤ c && c ≤ 'f')

/-- The beginning of a token's name. -/
def marker : String := "$TOKEN"

/-- The place of a text in a list. -/
def indexOf? (s : String) : List String → Option Nat
  | [] => none
  | t :: rest => if s = t then some 0 else (indexOf? s rest).map (· + 1)

/-- The text, or the name of the random token that it is. -/
def mask (t : Transcript) (s : String) : String × Transcript :=
  if isRandom s then
    match indexOf? s t.tokens with
    | some i => (marker ++ toString (i + 1), t)
    | none => (marker ++ toString (t.tokens.length + 1), ⟨t.tokens ++ [s]⟩)
  else (s, t)

/-- Masks the text of the member `token`. -/
def maskToken (t : Transcript) : List (String × Json) → List (String × Json) × Transcript
  | [] => ([], t)
  | ("token", .string s) :: rest =>
    let (s, t) := t.mask s
    (("token", .string s) :: rest, t)
  | member :: rest =>
    let (rest, t) := maskToken t rest
    (member :: rest, t)

/-- Masks the text of the member `token`, or of the member `token` of that member. -/
def maskBody (t : Transcript) : List (String × Json) → List (String × Json) × Transcript
  | [] => ([], t)
  | ("token", .object inner) :: rest =>
    let (inner, t) := t.maskToken inner
    (("token", .object inner) :: rest, t)
  | ("token", .string s) :: rest =>
    let (s, t) := t.mask s
    (("token", .string s) :: rest, t)
  | member :: rest =>
    let (rest, t) := maskBody t rest
    (member :: rest, t)

/-- The token that a name at the beginning of the characters stands for, and the length of the name. -/
def named? (t : Transcript) (cs : List Char) : Option (String × Nat) :=
  if marker.toList.isPrefixOf cs then
    let digits := (cs.drop marker.length).takeWhile Char.isDigit
    match Json.digitsValue digits with
    | 0 => none
    | n + 1 => t.tokens[n]?.map fun token => (token, marker.length + digits.length)
  else none

/-- Puts tokens in the place of their names, after passing over some characters. -/
def fillFrom (t : Transcript) (passed : Nat) : List Char → List Char
  | [] => []
  | c :: cs =>
    match passed with
    | n + 1 => fillFrom t n cs
    | 0 =>
      match t.named? (c :: cs) with
      | some (token, length) => token.toList ++ fillFrom t (length - 1) cs
      | none => c :: fillFrom t 0 cs

/-- The text with tokens in the place of their names. -/
def fill (t : Transcript) (s : String) : String := String.ofList (t.fillFrom 0 s.toList)

end Transcript
end BrokerGuard
