import Reshape.Binary64

/-!
# Reading decimal text

A decimal with an optional fraction and exponent, read as the nearest number. The digits are summed
exactly, so the result is correctly rounded whatever their number. Exponents far outside the range
of the format are settled before any power of ten is formed.
-/
namespace Reshape.Binary64

/-- The value of decimal digits, most significant first. -/
def digitsValue (digits : List Char) : Nat :=
  digits.foldl (fun value c => 10 * value + (c.toNat - '0'.toNat)) 0

/-- The number nearest to `± digits · 10 ^ place`; none if it is too large. -/
def ofDecimal? (negative : Bool) (digits : Nat) (place : Int) : Option Binary64 :=
  if digits = 0 then some (zero negative)
  else
    let lead := (Nat.toDigits 10 digits).length + place
    if lead < -400 then some (zero negative)
    else if 400 < lead then none
    else ofRatio? negative (digits * Nat.pow 10 place.toNat) (Nat.pow 10 (-place).toNat)

/-- Split off an optional sign: is it a minus, and what follows. -/
def takeSign : List Char → Bool × List Char
  | '+' :: rest => (false, rest)
  | '-' :: rest => (true, rest)
  | rest => (false, rest)

/-- The exponent part: nothing, or `e`, an optional sign and at least one digit, up to the end. -/
def exponentPart? : List Char → Option Int
  | [] => some 0
  | c :: rest =>
    if c = 'e' ∨ c = 'E' then
      let (negative, digits) := takeSign rest
      if digits.isEmpty || !digits.all Char.isDigit then none
      else some (if negative then -(digitsValue digits : Int) else digitsValue digits)
    else none

/-- The digits of a decimal without a sign, and the place of the last of them: digits with an
optional point somewhere among or beside them, and an optional exponent. -/
def decimalParts? (cs : List Char) : Option (List Char × Int) :=
  let whole := cs.takeWhile Char.isDigit
  let (fraction, tail) := match cs.dropWhile Char.isDigit with
    | '.' :: after => (after.takeWhile Char.isDigit, after.dropWhile Char.isDigit)
    | after => ([], after)
  if whole.isEmpty && fraction.isEmpty then none
  else (exponentPart? tail).map fun exponent => (whole ++ fraction, exponent - fraction.length)

/-- Read a decimal with an optional sign. None if the text has another form or is too large to be
finite. -/
def ofText? (text : String) : Option Binary64 := do
  let (negative, rest) := takeSign text.toList
  let (digits, place) ← decimalParts? rest
  ofDecimal? negative (digitsValue digits) place

end Reshape.Binary64
