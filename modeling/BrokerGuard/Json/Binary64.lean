import BrokerGuard.Json.Basic
/-!
# Fractions in sixty-four bits

A stored fraction is a binary64 number, computed from what was written by one multiplication or division, each result
rounded to the nearest number and a tie to the even significand.  It is named by the shortest decimal digits that lie in
the interval that rounds to it, the nearest of those, a tie again going to the even one.  All arithmetic is on natural
numbers: a decimal or a binary number is a quotient of two of them.
-/
namespace BrokerGuard
namespace Json
namespace Binary64

/-- A positive binary number: `significand * 2 ^ exponent`. -/
structure Positive where
  significand : Nat
  exponent : Int
  deriving DecidableEq, Repr

/-- `n * base ^ e` as a quotient. -/
def scaled (base n : Nat) (e : Int) : Nat × Nat :=
  if 0 ≤ e then (n * base.pow e.toNat, 1) else (n, base.pow (-e).toNat)

/-- The quotient rounded to the nearest natural number, a tie to the even one. -/
def roundEven (num den : Nat) : Nat :=
  let q := num / den
  let r := num % den
  if 2 * r < den then q
  else if den < 2 * r then q + 1
  else if q % 2 = 0 then q else q + 1

/-- The quotient divided by `2 ^ e`. -/
def unscale (num den : Nat) (e : Int) : Nat × Nat :=
  if 0 ≤ e then (num, den * Nat.pow 2 e.toNat) else (num * Nat.pow 2 (-e).toNat, den)

/-- The binary number nearest to a positive quotient; zero below the smallest, none above the largest. -/
def nearest? (num den : Nat) : Option Positive :=
  let guess : Int := Int.ofNat num.log2 - Int.ofNat den.log2 - 53
  let fits (e : Int) : Bool := let (n, d) := unscale num den e; decide (n < d * Nat.pow 2 53)
  let least := max guess (-1074)
  let e := if fits least then least else if fits (least + 1) then least + 1 else least + 2
  let (n, d) := unscale num den e
  let m := roundEven n d
  let (m, e) := if m = Nat.pow 2 53 then (Nat.pow 2 52, e + 1) else (m, e)
  if 971 < e then none else some ⟨m, e⟩

/-- A quotient lies in the interval of the numbers that round to `x`. -/
def roundsTo (x : Positive) (num den : Nat) : Bool :=
  let closed := x.significand % 2 == 0
  let lowSteps :=
    if x.significand = Nat.pow 2 52 ∧ -1074 < x.exponent then 4 * x.significand - 1 else 4 * x.significand - 2
  let (ln, ld) := scaled 2 lowSteps (x.exponent - 2)
  let (hn, hd) := scaled 2 (4 * x.significand + 2) (x.exponent - 2)
  let aboveLow := if closed then decide (ln * den ≤ num * ld) else decide (ln * den < num * ld)
  let belowHigh := if closed then decide (num * hd ≤ hn * den) else decide (num * hd < hn * den)
  aboveLow && belowHigh

/-- The best decimal with its unit at `10 ^ e` among the two neighbours of `x`, if one rounds to `x`. -/
def onGrid (x : Positive) (e : Int) : Option (Nat × Int) :=
  let (vn, vd) := scaled 2 x.significand x.exponent
  let (n, d) := if 0 ≤ e then (vn, vd * Nat.pow 10 e.toNat) else (vn * Nat.pow 10 (-e).toNat, vd)
  let low := n / d
  let ok (k : Nat) : Bool := let (kn, kd) := scaled 10 k e; 0 < k && roundsTo x kn kd
  match ok low, ok (low + 1) with
  | true, true => some (if 2 * (n % d) < d ∨ (2 * (n % d) = d ∧ low % 2 = 0) then low else low + 1, e)
  | true, false => some (low, e)
  | false, true => some (low + 1, e)
  | false, false => none

/-- The first grid, from coarse to fine, on which a neighbour of `x` rounds to it. -/
def firstGrid (x : Positive) : Nat → Int → Option (Nat × Int)
  | 0, _ => none
  | tries + 1, e =>
    match onGrid x e with
    | some found => some found
    | none => firstGrid x tries (e - 1)

/-- Drops trailing zeros of the digits. -/
def dropZeros : Nat → Nat → Int → Nat × Int
  | 0, digits, e => (digits, e)
  | tries + 1, digits, e => if digits ≠ 0 ∧ digits % 10 = 0 then dropZeros tries (digits / 10) (e + 1) else (digits, e)

/-- The shortest digits of a binary number. -/
def shortest (x : Positive) : Nat × Int :=
  let (vn, vd) := scaled 2 x.significand x.exponent
  let top : Int := (Int.ofNat vn.log2 - Int.ofNat vd.log2) * 30103 / 100000 + 2
  match firstGrid x 22 top with
  | some (digits, e) => dropZeros 40 digits e
  | none => (0, 0)

/-- The binary number nearest to a product. -/
def times? (x y : Positive) : Option Positive :=
  let (num, den) := scaled 2 (x.significand * y.significand) (x.exponent + y.exponent)
  nearest? num den

/-- The binary number nearest to a quotient. -/
def over? (x y : Positive) : Option Positive :=
  let (num, den) := unscale x.significand y.significand (y.exponent - x.exponent)
  nearest? num den

/-- The binary number nearest to a power of ten. -/
def powerOfTen? (e : Nat) : Option Positive := nearest? (Nat.pow 10 e) 1

/-- The greatest exponent of a power of ten among the binary numbers. -/
def greatestPower : Nat := 308

/-- A written fraction as a binary number.  Its digits and the power of ten that scales them are each rounded before
they are multiplied or divided, so the result may lie a few steps off the nearest number.  A power below the least one
divides in two steps; what is left after three would be nothing. -/
def ofDecimal? (digits : Nat) (exponent : Int) : Option Positive :=
  if digits = 0 ∨ exponent < -2 * greatestPower then some ⟨0, 0⟩
  else if greatestPower < exponent then none
  else do
    let x ← nearest? digits 1
    if 0 ≤ exponent then times? x (← powerOfTen? exponent.toNat)
    else if -greatestPower ≤ exponent then over? x (← powerOfTen? (-exponent).toNat)
    else over? (← over? x (← powerOfTen? greatestPower)) (← powerOfTen? (-exponent - greatestPower).toNat)

/-- The stored form of a written fraction; none when it is too large. -/
def store? (negative : Bool) (digits : Nat) (exponent : Int) : Option JsonNumber :=
  (ofDecimal? digits exponent).map fun x =>
    if x.significand = 0 then .decimal negative 0 0
    else let (d, e) := shortest x; .decimal negative d e

end Binary64
end Json
end BrokerGuard
