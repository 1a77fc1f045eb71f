import BrokerGuard.Text.Property
/-!
# Pieces of texts

Cutting a row of characters at separators, and off its blanks.
-/
namespace BrokerGuard
namespace Text

/-- Drops blanks at both ends. -/
def trim (cs : List Char) : List Char :=
  ((cs.dropWhile isWhiteSpace).reverse.dropWhile isWhiteSpace).reverse

/-- The pieces between separators. -/
def splitAt (isSeparator : Char → Bool) : List Char → List (List Char)
  | [] => [[]]
  | c :: cs =>
    if isSeparator c then [] :: splitAt isSeparator cs
    else match splitAt isSeparator cs with
      | [] => [[c]]
      | piece :: rest => (c :: piece) :: rest

end Text
end BrokerGuard
