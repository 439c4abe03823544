import Reshape.Binary64

/-!
# The fewest decimal digits that read back

A decimal is written for a number when it lies in the interval of reals that round to the number. Of
all powers of ten with a multiple in that interval the largest is taken, and of its multiples the
one nearest to the number. Where two are equally near a format decides. The search works on
quotients of natural numbers and never on rounded ones.
-/
namespace Reshape.Binary64

/-- Which of two equally near decimals is taken: the one with an even last digit, or the larger one.
-/
inductive Tie where
  | toEven
  | up
  deriving DecidableEq, Repr

/-- Is the lower of two neighbours taken in a tie? -/
def Tie.takesLower : Tie → Nat → Bool
  | .toEven, lower => lower % 2 = 0
  | .up, _ => false

/-- The interval of reals that round to a number, over one denominator; the ends belong to it
exactly if the significand is even. -/
structure RoundingInterval where
  low : Nat
  value : Nat
  high : Nat
  denominator : Nat
  closed : Bool
  deriving Repr

/-- Half way to the neighbours on both sides. Just above a power of two the neighbour below is only
half as far away. -/
def roundingInterval (x : Binary64) : RoundingInterval :=
  let below := if x.significand = leastFull ∧ -1074 < x.exponent then 1 else 2
  let up := Nat.pow 2 (x.exponent - 2).toNat
  { low := (4 * x.significand - below) * up
    value := 4 * x.significand * up
    high := (4 * x.significand + 2) * up
    denominator := Nat.pow 2 (2 - x.exponent).toNat
    closed := x.significand % 2 = 0 }

namespace RoundingInterval

/-- Does `multiple · 10 ^ place` round to the number? -/
def contains (i : RoundingInterval) (multiple : Nat) (place : Int) : Bool :=
  let scaled := multiple * Nat.pow 10 place.toNat * i.denominator
  let low := i.low * Nat.pow 10 (-place).toNat
  let high := i.high * Nat.pow 10 (-place).toNat
  if i.closed then low ≤ scaled && scaled ≤ high else low < scaled && scaled < high

/-- The multiple of `10 ^ place` nearest to the number among those that round to it. -/
def nearestMultiple? (i : RoundingInterval) (tie : Tie) (place : Int) : Option Nat :=
  let unit := Nat.pow 10 place.toNat * i.denominator
  let value := i.value * Nat.pow 10 (-place).toNat
  let floor := value / unit
  let rest := value % unit
  match i.contains floor place, i.contains (floor + 1) place with
  | true, true =>
    if 2 * rest < unit || (2 * rest = unit && tie.takesLower floor) then some floor
    else some (floor + 1)
  | true, false => some floor
  | false, true => some (floor + 1)
  | false, false => none

/-- Search the places below `steps - 342`, the highest first. -/
def search (i : RoundingInterval) (tie : Tie) : Nat → Option (Nat × Int)
  | 0 => none
  | steps + 1 =>
    let place : Int := (steps : Int) - 342
    match i.nearestMultiple? tie place with
    | some multiple => some (multiple, place)
    | none => i.search tie steps

end RoundingInterval

/-- Decimal digits and the place of the last one: the magnitude is `digits · 10 ^ place`. -/
structure Decimal where
  digits : Nat
  place : Int
  deriving DecidableEq, Repr

/-- The shortest decimal that reads back as the magnitude, and the nearest of those. Every number
has one at place -341 at the latest. -/
def shortest (tie : Tie) (x : Binary64) : Decimal :=
  if x.significand = 0 then ⟨0, 0⟩
  else
    let i := x.roundingInterval
    let places := (Nat.toDigits 10 (i.value / i.denominator)).length
    match i.search tie (places + 343) with
    | some (digits, place) => ⟨digits, place⟩
    | none => ⟨0, 0⟩

end Reshape.Binary64
