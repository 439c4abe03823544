import Reshape.Binary64.Decimal
import Reshape.Toml.Place
import Reshape.Value

/-!
# Numbers of TOML

Integers of 64 bits in four bases, and floats. Single underscores may stand between digits, and a
decimal does not begin with a zero that another digit follows.
-/
namespace Reshape.Toml

/-- A float, or a number that no decimal can write. -/
inductive Fractional where
  | finite (x : Binary64)
  | infinite (negative : Bool)
  | notANumber
  deriving DecidableEq, Repr

/-- The text of a sign. -/
def signText (negative : Bool) : String := if negative then "-" else ""

/-- Pass a sign, if there is one: is it a minus? -/
def signAt (p : Place) : Bool × Place :=
  match p.head? with
  | some '+' => (false, p.skip 1)
  | some '-' => (true, p.skip 1)
  | _ => (false, p)

/-- Digits behind a first one. An underscore promises another digit. -/
def moreDigits (isDigit : Char → Bool) : Nat → Place → Except Refusal (List Char × Place)
  | 0, p => .ok ([], p)
  | turns + 1, p =>
    let behind := p.skip 1
    match p.head? with
    | some c =>
      if isDigit c then do
        let (digits, behind) ← moreDigits isDigit turns behind
        return (c :: digits, behind)
      else if c = '_' then
        if behind.head?.any isDigit then moreDigits isDigit turns behind
        else final (behind.refuse none [.digit])
      else .ok ([], p)
    | none => .ok ([], p)

/-- Digits, one at least. -/
def digitsAt (isDigit : Char → Bool) (p : Place) : Except Refusal (List Char × Place) :=
  if p.head?.any isDigit then moreDigits isDigit (p.rest.length + 1) p else p.refuse none

/-- A decimal without a fraction: its sign and its digits. -/
def decimalAt (p : Place) : Except Refusal ((Bool × List Char) × Place) :=
  let (negative, unsigned) := signAt p
  within .integer do
    let (digits, behind) ←
      if unsigned.head? = some '0' then .ok (['0'], unsigned.skip 1)
      else digitsAt Char.isDigit unsigned
    return ((negative, digits), behind)

/-- The value of digits in a base of at most sixteen. -/
def valueIn (base : Nat) (digits : List Char) : Nat :=
  digits.foldl (fun value c =>
    base * value + (if c.isDigit then c.toNat - '0'.toNat else c.toLower.toNat - 'a'.toNat + 10)) 0

/-- An integer, if it fits; a fault covers its first character. -/
def fitting (p : Place) (n : Int) : Except Refusal Int :=
  if Number.fitsSigned n then .ok n
  else final (p.refuse none [] (some (if n < 0 then .tooSmall else .tooLarge)))

/-- The bases other than ten: the letter behind the zero, the base, and what an integer in it is
called. -/
def bases : List (Char × Nat × Part) :=
  [('x', 16, .hexInteger), ('o', 8, .octalInteger), ('b', 2, .binaryInteger)]

/-- Is this a digit in a base of at most sixteen? -/
def isDigitIn (base : Nat) (c : Char) : Bool :=
  (c.isDigit || ('a' ≤ c.toLower && c.toLower ≤ 'f')) && valueIn 16 [c] < base

def integerAt (p : Place) : Except Refusal (Int × Place) :=
  let base? := match p.rest with
    | '0' :: letter :: _ => bases.lookup letter
    | _ => none
  match base? with
  | some (base, part) => final do
    let (digits, behind) ← within part (digitsAt (isDigitIn base) (p.skip 2))
    return (← fitting p (valueIn base digits), behind)
  | none => do
    let ((negative, digits), behind) ← decimalAt p
    let value : Int := valueIn 10 digits
    return (← fitting p (if negative then -value else value), behind)

/-- The fraction behind its point. -/
def fractionAt (p : Place) : Except Refusal (List Char × Place) :=
  final (wanting [.digit] (digitsAt Char.isDigit (p.skip 1)))

/-- The exponent behind its letter: its sign and its digits. -/
def exponentAt (p : Place) : Except Refusal (List Char × Place) := do
  let (negative, unsigned) := signAt (p.skip 1)
  let (digits, behind) ← final (digitsAt Char.isDigit unsigned)
  return ('e' :: (signText negative).toList ++ digits, behind)

/-- Does an exponent begin here? -/
def beginsExponent (p : Place) : Bool := p.head? = some 'e' || p.head? = some 'E'

/-- What makes a float of a decimal: a fraction, an exponent or both. -/
def floatTailAt (p : Place) : Except Refusal (List Char × Place) := do
  if beginsExponent p then exponentAt p
  else if p.head? = some '.' then
    let (fraction, behind) ← fractionAt p
    if beginsExponent behind then
      let (exponent, behind) ← exponentAt behind
      return ('.' :: fraction ++ exponent, behind)
    else return ('.' :: fraction, behind)
  else p.refuse none

/-- A float of digits. Below the least one it is negative infinity; above the greatest one it is
refused. -/
def decimalFloatAt (p : Place) : Except Refusal (Fractional × Place) := do
  let ((negative, digits), behind) ← decimalAt p
  let (tail, behind) ← floatTailAt behind
  match Binary64.ofText? (signText negative ++ String.ofList (digits ++ tail)) with
  | some x => return (.finite x, behind)
  | none => if negative then return (.infinite true, behind) else final (p.refuse none)

/-- A word for a number that no decimal can write. -/
def wordFloatAt (p : Place) : Except Refusal (Fractional × Place) :=
  let (negative, unsigned) := signAt p
  if unsigned.startsWith "inf" then .ok (.infinite negative, unsigned.skip 3)
  else if unsigned.startsWith "nan" then .ok (.notANumber, unsigned.skip 3)
  else unsigned.refuse none

def floatAt (p : Place) : Except Refusal (Fractional × Place) :=
  within .float (orElse (decimalFloatAt p) fun _ => wordFloatAt p)

end Reshape.Toml
