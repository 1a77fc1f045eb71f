import BrokerGuard.Pattern.Regex.Basic
/-!
# Flags of a regular expression

The flags hold from where they are set to the end of the group.  They say what letter case, lines and dots mean, whether
classes are those of Unicode or of ASCII, which repetitions prefer few rounds, and whether blanks and comments may stand
between the parts of an expression.
ASCII classes have no complement, because it would hold bytes that are no characters.
-/
namespace BrokerGuard
namespace Pattern
namespace Regex

open Text (CharSet)

/-- The flags in force. -/
structure Flags where
  anyCase : Bool := false
  multiLine : Bool := false
  dotAll : Bool := false
  linePairs : Bool := false
  unicode : Bool := true
  /-- A repetition prefers many rounds only with a question mark after it. -/
  swapGreed : Bool := false
  verbose : Bool := false
  deriving DecidableEq, Repr

/-- Drops blanks and the comments that a sharp sign begins and the end of the line ends. -/
def dropComments (inComment : Bool) : List Char → List Char
  | [] => []
  | c :: cs =>
    if inComment then dropComments (c != '\n') cs
    else if Text.isWhiteSpace c then dropComments false cs
    else if c = '#' then dropComments true cs
    else c :: cs

namespace Flags

/-- Drops what may stand between two parts. -/
def skip (f : Flags) (cs : List Char) : List Char := if f.verbose then dropComments false cs else cs

/-- The set with the case variants that the flags ask for. -/
def fold (f : Flags) (set : CharSet) : CharSet :=
  if !f.anyCase then set
  else if f.unicode then set.anyCase
  else set.anyCase.intersection .ascii

/-- The set or its complement. -/
def negate? (f : Flags) (negated : Bool) (set : CharSet) : Option CharSet :=
  if !negated then some set else if f.unicode then some set.complement else none

/-- The set of one character that stands for itself. -/
def literal (f : Flags) (c : Char) : CharSet :=
  if f.unicode || decide (c.toNat < 128) then f.fold (.single c) else .single c

/-- The word characters. -/
def letters (f : Flags) : CharSet := wordSet f.unicode

/-- The decimal digits. -/
def digits (f : Flags) : CharSet := if f.unicode then .digits else .range '0' '9'

/-- The white space. -/
def spaces (f : Flags) : CharSet := if f.unicode then .space else .union (.range '\t' '\r') (.single ' ')

/-- The set that a dot stands for. -/
def dot? (f : Flags) : Option CharSet :=
  if !f.unicode then none
  else if f.dotAll then some .all
  else if f.linePairs then some (.complement (.union (.single '\n') (.single '\r')))
  else some (.complement (.single '\n'))

/-- The place that a circumflex stands for. -/
def start (f : Flags) : Anchor := if f.multiLine then .lineStart f.linePairs else .textStart

/-- The place that a dollar sign stands for. -/
def stop (f : Flags) : Anchor := if f.multiLine then .lineStop f.linePairs else .textStop

/-- Switches a flag by its letter. -/
def switch (f : Flags) (on : Bool) (letter : Char) : Flags :=
  match letter with
  | 'i' => { f with anyCase := on }
  | 'm' => { f with multiLine := on }
  | 's' => { f with dotAll := on }
  | 'R' => { f with linePairs := on }
  | 'U' => { f with swapGreed := on }
  | 'u' => { f with unicode := on }
  | 'x' => { f with verbose := on }
  | _ => f

/-- Switches flags on, and after a dash off. -/
def switchAll (on : Bool) (f : Flags) : List Char → Flags
  | [] => f
  | '-' :: letters => switchAll false f letters
  | letter :: letters => switchAll on (f.switch on letter) letters

/-- The letters of flags, each at most once, and a dash only before others. -/
def areLetters (letters : List Char) : Bool :=
  letters.all "imsRUux-".toList.contains && decide letters.Nodup && letters.getLast? != some '-'

end Flags
end Regex
end Pattern
end BrokerGuard
