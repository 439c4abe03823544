import Reshape.Json.Fault
import Reshape.Value

/-!
# Numerals of a JSON text

A numeral without fraction and exponent is an integer if it fits 64 bits; every other one is a
float. The significand of a float is kept in 64 bits: digits that no longer fit are dropped and only
count as places. The significand is rounded to a float first and then multiplied or divided once by
a power of ten, itself rounded; so a float may be off its decimal in the last bit.
-/
namespace Reshape.Json

/-- The greatest significand: 64 bits. -/
def maxSignificand : Nat := 0xFFFFFFFFFFFFFFFF

/-- The greatest exponent that is read out: 31 bits. -/
def maxExponent : Nat := 0x7FFFFFFF

/-- Append digits to a significand while it fits; with it, how many were appended. -/
def extendSignificand (significand : Nat) : List Char → Nat × Nat
  | [] => (significand, 0)
  | c :: rest =>
    let longer := 10 * significand + (c.toNat - '0'.toNat)
    if longer ≤ maxSignificand then
      let (final, count) := extendSignificand longer rest
      (final, count + 1)
    else (significand, 0)

/-- The power of ten that is nearest among floats. -/
def powerOfTen? (exponent : Nat) : Option Binary64 :=
  Binary64.ofRatio? false (Nat.pow 10 exponent) 1

/-- A float divided by 10^308 so many times, rounded at each. -/
def divideRepeatedly? : Nat → Binary64 → Option Binary64
  | 0, x => some x
  | steps + 1, x =>
    if x.isZero then some x
    else ((powerOfTen? 308).bind x.div?).bind (divideRepeatedly? steps)

/-- A float scaled by a power of ten, in steps that each round once: one product up to 10^308 and
none beyond, or as many quotients by 10^308 as leave one by a smaller power. -/
def scaleFloat? (x : Binary64) (exponent : Int) : Option Binary64 :=
  if x.isZero then some x
  else if 308 < exponent then none
  else if 0 ≤ exponent then (powerOfTen? exponent.toNat).bind x.mul?
  else
    let places := (-exponent).toNat
    let steps := (places - 1) / 308
    (divideRepeatedly? steps x).bind fun y =>
      (powerOfTen? (places - 308 * steps)).bind y.div?

/-- The float of a sign, a significand and an exponent; none if it is out of range. -/
def floatOfParts? (negative : Bool) (significand : Nat) (exponent : Int) : Option Binary64 :=
  ((Binary64.ofInt? significand).bind (scaleFloat? · exponent)).map
    fun x => if negative then x.neg else x

/-- The number of a numeral without fraction and exponent, all of whose digits fit. Negative zero is
a float, and so are negative numbers below 64 bits. -/
def wholeNumber? (negative : Bool) (significand : Nat) : Option Number :=
  if !negative then some (.int significand)
  else if significand = 0 || Number.signedBound < significand then
    (floatOfParts? true significand 0).map .float
  else some (.int (-significand))

/-- The digits of an exponent up to the one that makes it too large, if one does. -/
def exponentDigits (value : Nat) : List Char → Nat × Option Nat
  | [] => (value, none)
  | c :: rest =>
    let longer := 10 * value + (c.toNat - '0'.toNat)
    if maxExponent < longer then (value, some 1)
    else
      let (final, excess) := exponentDigits longer rest
      (final, excess.map (· + 1))

/-- The float, or the fault that it is out of range, at the place behind the numeral. -/
def floatAt (c : Cursor) (negative : Bool) (significand : Nat) (exponent : Int) :
    Reading c Number :=
  match floatOfParts? negative significand exponent with
  | some x => .ok (.float x, c.stay)
  | none => Reading.fail c .numberOutOfRange

/-- The exponent behind its letter, with the significand and the places before it. -/
def exponentAt (c : Cursor) (negative : Bool) (significand : Nat) (places : Int) :
    Reading c Number :=
  let (down, signed) : Bool × c.Later := match c.rest with
    | '+' :: _ => (false, c.next)
    | '-' :: _ => (true, c.next)
    | _ => (false, c.stay)
  let (digits, behind) := signed.1.split Char.isDigit
  match digits, signed.1.rest with
  | [], [] => Reading.fail signed.1 .endOfValue
  | [], _ => Reading.failPeek signed.1 .invalidNumber
  | _ :: _, _ =>
    match exponentDigits 0 digits with
    | (exponent, none) =>
      Reading.from' (signed.then behind) (floatAt behind.1 negative significand
        (if down then places - exponent else places + exponent))
    | (_, some excess) =>
      if significand ≠ 0 && !down then
        let position := signed.1.position
        .error ⟨.numberOutOfRange, ⟨position.line, position.column + excess⟩⟩
      else .ok (.float (Binary64.zero negative), signed.then behind)

/-- The fraction behind its point. -/
def fractionAt (c : Cursor) (negative : Bool) (significand : Nat) (places : Int) :
    Reading c Number :=
  let (digits, behind) := c.split Char.isDigit
  if digits.isEmpty then
    Reading.failPeek c (if c.rest.isEmpty then .endOfValue else .invalidNumber)
  else
    let (longer, count) := extendSignificand significand digits
    Reading.from' behind (match behind.1.rest with
      | 'e' :: _ | 'E' :: _ =>
        Reading.from' behind.1.next (exponentAt behind.1.next.1 negative longer (places - count))
      | _ => floatAt behind.1 negative longer (places - count))

/-- A numeral behind its minus sign, if it has one. -/
def numeralAt (c : Cursor) (negative : Bool) : Reading c Number :=
  let (digits, behind) := c.split Char.isDigit
  match digits, c.rest with
  | [], [] => Reading.fail c .endOfValue
  | [], _ => Reading.failPeek c .invalidNumber
  | '0' :: _ :: _, _ => Reading.failPeek c.next.1 .invalidNumber
  | _, _ =>
    let (significand, count) := extendSignificand 0 digits
    let dropped := digits.length - count
    Reading.from' behind (match behind.1.rest with
      | '.' :: _ =>
        Reading.from' behind.1.next (fractionAt behind.1.next.1 negative significand dropped)
      | 'e' :: _ | 'E' :: _ =>
        Reading.from' behind.1.next (exponentAt behind.1.next.1 negative significand dropped)
      | _ =>
        if dropped = 0 then
          match wholeNumber? negative significand with
          | some n => .ok (n, behind.1.stay)
          | none => Reading.fail behind.1 .numberOutOfRange
        else floatAt behind.1 negative significand dropped)

end Reshape.Json
