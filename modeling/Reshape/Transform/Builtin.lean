import Reshape.Transform
import Reshape.Binary64.Decimal
import Reshape.Json.Writer
import Reshape.Text.Case

/-!
# Built-in transforms

The transforms that every registry may start with, and the plain text of a value, which they share
with lookup tables: texts stand for themselves, a float that is a whole number reads like that
number, and everything else is its JSON text.
-/
namespace Reshape

/-- The plain text of a value. -/
def Value.plainText : Value → String
  | .text s => s
  | .number (.float x) => x.text .plain
  | other => Json.compact other

namespace Transform

/-- A float and one, rounded. -/
def incrementFloat? (x : Binary64) : Option Value :=
  ((Binary64.ofInt? 1).bind x.add?).map fun y => .number (.float y)

/-- One more: integers that fit 64 bits with a sign stay such integers, the least of them following
the greatest; other numbers become floats. -/
def increment? : Value → Option Value
  | .number (.int n) =>
    if Number.fitsSigned n then some (.int (Number.wrapSigned (n + 1)))
    else (Binary64.ofInt? n).bind incrementFloat?
  | .number (.float x) => incrementFloat? x
  | _ => none

def increment : Transform where
  name := "increment"
  call
    | .null => .ok .null
    | value =>
      match increment? value with
      | some result => .ok result
      | none => failure "increment" s!"expected a number, found {Json.compact value}"

/-- The fields or items as plain texts with bars between them; any other value alone. -/
def concat : Transform :=
  total "concat" fun
    | .object fields =>
      .text ("|".intercalate (fields.map fun field => s!"{field.1}:{field.2.plainText}"))
    | .list items => .text ("|".intercalate (items.map Value.plainText))
    | other => .text other.plainText

/-- A function of texts, which passes null through. -/
def onText (name : String) (f : String → String) : Transform where
  name
  call
    | .text s => .ok (.text (f s))
    | .null => .ok .null
    | other => failure name s!"expected a string, found {Json.compact other}"

def uppercase : Transform := onText "uppercase" Text.upper

def lowercase : Transform := onText "lowercase" Text.lower

def toPlainText : Transform :=
  total "toString" fun
    | .null => .null
    | other => .text other.plainText

/-- An optional sign and decimal digits, if the integer fits 64 bits with a sign. -/
def signedInteger? (text : String) : Option Int :=
  let (negative, digits) := Binary64.takeSign text.toList
  if digits.isEmpty || !digits.all Char.isDigit then none
  else
    let magnitude : Int := Binary64.digitsValue digits
    let n := if negative then -magnitude else magnitude
    if Number.fitsSigned n then some n else none

/-- The number a text reads as: an integer if it can be one, else a float. -/
def numberOfText? (text : String) : Option Number :=
  match signedInteger? text with
  | some n => some (.int n)
  | none => (Binary64.ofText? text).map .float

def toNumber : Transform where
  name := "toNumber"
  call
    | .text s =>
      match numberOfText? s with
      | some n => .ok (.number n)
      | none => failure "toNumber" s!"`{s}` is not a number"
    | .number n => .ok (.number n)
    | .null => .ok .null
    | other => failure "toNumber" s!"cannot convert {Json.compact other} to a number"

/-- The count of characters, items or fields. -/
def length : Transform where
  name := "length"
  call
    | .text s => .ok (.int s.toList.length)
    | .list items => .ok (.int items.length)
    | .object fields => .ok (.int fields.length)
    | other => failure "length" s!"{Json.compact other} has no length"

/-- All built-in transforms. -/
def builtins : List Transform :=
  [increment, concat, uppercase, lowercase, toPlainText, toNumber, length]

end Transform
end Reshape
