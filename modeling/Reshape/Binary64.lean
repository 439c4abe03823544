/-!
# Finite double precision numbers

A finite IEEE 754 binary64 number is a sign, a significand and a power of two, kept in the one form
that the format stores, so equal numbers of equal sign are equal values. All arithmetic is exact
arithmetic on natural numbers followed by one rounding to the nearest number, ties to the even
significand. Nothing here is infinite: an operation whose result is too large has no result.
-/
namespace Reshape

/-- The least number of 53 bits, `2 ^ 52`. -/
abbrev Binary64.leastFull : Nat := 0x10000000000000

/-- The least number of 54 bits, `2 ^ 53`. -/
abbrev Binary64.significandBound : Nat := 0x20000000000000

/-- The number `± significand · 2 ^ exponent`, in normal form: the significand fills 53 bits unless
the exponent is the least one. -/
structure Binary64 where
  negative : Bool
  significand : Nat
  exponent : Int
  significand_lt : significand < Binary64.significandBound
  exponent_ge : -1074 ≤ exponent
  exponent_le : exponent ≤ 971
  normal : Binary64.leastFull ≤ significand ∨ exponent = -1074
  deriving DecidableEq, Repr

namespace Binary64

/-- The number with these parts, if they are in normal form. -/
def ofParts? (negative : Bool) (significand : Nat) (exponent : Int) : Option Binary64 :=
  if h : significand < significandBound ∧ -1074 ≤ exponent ∧ exponent ≤ 971 ∧
      (leastFull ≤ significand ∨ exponent = -1074) then
    some ⟨negative, significand, exponent, h.1, h.2.1, h.2.2.1, h.2.2.2⟩
  else none

/-- Zero with a sign. -/
def zero (negative : Bool) : Binary64 :=
  ⟨negative, 0, -1074, by decide, by decide, by decide, Or.inr rfl⟩

def isZero (x : Binary64) : Bool := x.significand == 0

/-- The same magnitude with the other sign. -/
def neg (x : Binary64) : Binary64 := { x with negative := !x.negative }

/-- The quotient rounded to the nearest integer, a half to the even one. -/
def divRoundEven (num den : Nat) : Nat :=
  let floor := num / den
  let twice := 2 * (num % den)
  if twice < den then floor
  else if den < twice then floor + 1
  else if floor % 2 = 0 then floor else floor + 1

/-- The quotient `num / den` over `2 ^ exponent`, as numerator and denominator. -/
def scaleRatio (num den : Nat) (exponent : Int) : Nat × Nat :=
  (num * Nat.pow 2 (-exponent).toNat, den * Nat.pow 2 exponent.toNat)

/-- The exponent of the last significand bit of the number nearest to a positive quotient. -/
def ratioExponent (num den : Nat) : Int :=
  let guess : Int := (num.log2 : Int) - den.log2
  let (n, d) := scaleRatio num den guess
  let leading := if d ≤ n then guess else guess - 1
  max (leading - 52) (-1074)

/-- The number nearest to `± num / den`, ties to even; none if that is beyond the largest one or the
denominator is zero. -/
def ofRatio? (negative : Bool) (num den : Nat) : Option Binary64 :=
  if den = 0 then none
  else if num = 0 then some (zero negative)
  else
    let exponent := ratioExponent num den
    let (n, d) := scaleRatio num den exponent
    let significand := divRoundEven n d
    if significand = significandBound then ofParts? negative leastFull (exponent + 1)
    else ofParts? negative significand exponent

/-- The magnitude as an exact quotient of natural numbers. -/
def ratio (x : Binary64) : Nat × Nat :=
  (x.significand * Nat.pow 2 x.exponent.toNat, Nat.pow 2 (-x.exponent).toNat)

/-- The number nearest to an integer; none beyond the largest one. -/
def ofInt? (n : Int) : Option Binary64 := ofRatio? (decide (n < 0)) n.natAbs 1

/-- Rounded sum; a zero sum is negative only if both terms are. -/
def add? (x y : Binary64) : Option Binary64 :=
  let (a, b) := x.ratio
  let (c, d) := y.ratio
  let left : Int := if x.negative then -(a * d : Nat) else (a * d : Nat)
  let right : Int := if y.negative then -(c * b : Nat) else (c * b : Nat)
  let sum := left + right
  if sum = 0 then some (zero (x.negative && y.negative))
  else ofRatio? (decide (sum < 0)) sum.natAbs (b * d)

/-- Rounded product; none if it is too large. -/
def mul? (x y : Binary64) : Option Binary64 :=
  let (a, b) := x.ratio
  let (c, d) := y.ratio
  ofRatio? (x.negative != y.negative) (a * c) (b * d)

/-- Rounded quotient; none if it is too large or the divisor is zero. -/
def div? (x y : Binary64) : Option Binary64 :=
  let (a, b) := x.ratio
  let (c, d) := y.ratio
  ofRatio? (x.negative != y.negative) (a * d) (b * c)

theorem neg_neg (x : Binary64) : x.neg.neg = x := by
  cases x; simp [neg]

theorem ofParts?_self (x : Binary64) :
    ofParts? x.negative x.significand x.exponent = some x := by
  unfold ofParts?
  rw [dif_pos ⟨x.significand_lt, x.exponent_ge, x.exponent_le, x.normal⟩]

end Binary64
end Reshape
