import Reshape.Binary64.Decimal

/-!
# Plain scalars of YAML

What a scalar without quotes stands for: null, a truth value, an integer in one of four bases, a
float or else a text. The reader resolves scalars by it, and the writer puts quotes around every
text that would be resolved to something else.
-/
namespace Reshape.Yaml

/-- What a plain scalar stands for. -/
inductive Scalar where
  | null
  | bool (b : Bool)
  /-- An integer that fits 64 bits. -/
  | int (n : Int)
  /-- An integer that needs up to 128 bits. -/
  | wideInt (n : Int)
  | float (x : Binary64)
  /-- An infinity, or what is not a number. -/
  | notFinite (text : String)
  | text (s : String)
  deriving Repr

/-- The value of a digit in a base. -/
def digitIn? (base : Nat) (c : Char) : Option Nat :=
  let value :=
    if c.isDigit then c.toNat - '0'.toNat
    else if 'a' ≤ c ∧ c ≤ 'f' then c.toNat - 'a'.toNat + 10
    else if 'A' ≤ c ∧ c ≤ 'F' then c.toNat - 'A'.toNat + 10
    else base
  if value < base then some value else none

/-- The number that digits of a base write; none without digits. -/
def numeral? (base : Nat) : List Char → Option Nat
  | [] => none
  | digits => digits.foldlM (fun value c => (digitIn? base c).map (base * value + ·)) 0

/-- A magnitude: digits, or the letter of a base behind a zero and its digits. -/
def magnitude? : List Char → Option Nat
  | '0' :: 'x' :: digits => numeral? 16 digits
  | '0' :: 'o' :: digits => numeral? 8 digits
  | '0' :: 'b' :: digits => numeral? 2 digits
  | digits => numeral? 10 digits

/-- Digits that begin with a zero and do not end there: an identifier, not a number. -/
def isPaddedDigits (cs : List Char) : Bool :=
  match (Binary64.takeSign cs).2 with
  | '0' :: rest => !rest.isEmpty && rest.all Char.isDigit
  | _ => false

/-- An integer with an optional sign. -/
def integer? (cs : List Char) : Option Int :=
  if isPaddedDigits cs then none
  else
    let (negative, digits) := Binary64.takeSign cs
    (magnitude? digits).map fun n => if negative then -(n : Int) else n

/-- The spellings of the infinities. -/
def Scalar.infinities : List String :=
  [".inf", ".Inf", ".INF", "+.inf", "+.Inf", "+.INF", "-.inf", "-.Inf", "-.INF"]

/-- The spellings of what is not a number. -/
def Scalar.notANumber : List String := [".nan", ".NaN", ".NAN"]

/-- Is this a number that no decimal can write? -/
def isNotFinite (text : String) : Bool :=
  Scalar.infinities.contains text || Scalar.notANumber.contains text

/-- Does an integer fit 64 bits, with a sign if it is negative? -/
def fitsWord (n : Int) : Bool := -0x8000000000000000 ≤ n && n ≤ 0xFFFFFFFFFFFFFFFF

/-- Does an integer fit 128 bits, with a sign if it is negative? -/
def fitsDoubleWord (n : Int) : Bool :=
  -0x80000000000000000000000000000000 ≤ n && n ≤ 0xFFFFFFFFFFFFFFFFFFFFFFFFFFFFFFFF

namespace Scalar

/-- The words for null. -/
def nullWords : List String := ["null", "Null", "NULL", "~"]

/-- The truth value that a word names. -/
def bool? (text : String) : Option Bool :=
  if ["true", "True", "TRUE"].contains text then some true
  else if ["false", "False", "FALSE"].contains text then some false
  else none

/-- An integer of at most 128 bits. -/
def int? (text : String) : Option Scalar :=
  (integer? text.toList).bind fun n =>
    if fitsWord n then some (.int n) else if fitsDoubleWord n then some (.wideInt n) else none

/-- A float, or a number that no decimal can write. -/
def float? (text : String) : Option Scalar :=
  if isNotFinite text then some (.notFinite text) else (Binary64.ofText? text).map .float

/-- What a plain scalar stands for. -/
def ofText (text : String) : Scalar :=
  if text.isEmpty || nullWords.contains text then .null
  else
    match bool? text, int? text with
    | some b, _ => .bool b
    | none, some n => n
    | none, none =>
      if isPaddedDigits text.toList then .text text else (float? text).getD (.text text)

end Scalar

/-- Would a text without quotes be read as a text again? -/
def isTextAsPlain (text : String) : Bool :=
  match Scalar.ofText text with
  | .text _ => !isPaddedDigits text.toList
  | _ => false

end Reshape.Yaml
