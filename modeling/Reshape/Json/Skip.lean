import Reshape.Json.Reader

/-!
# Passing over a value of JSON

A value that nobody asked for is checked for its form only. Its numbers may be out of range, its
strings may hold half a surrogate pair, and its containers may lie as deep as they like: the open
ones are kept in a list, innermost first. A comma promises another item, so what stands in front of
a closing bracket is the item that is missed.
-/
namespace Reshape.Json

/-- A kind of container. -/
inductive Bracket where
  | list
  | object
  deriving DecidableEq, Repr

namespace Bracket

/-- The container that a character opens. -/
def opened? (c : Char) : Option Bracket :=
  if c = '[' then some .list else if c = '\x7b' then some .object else none

def closing : Bracket → Char
  | .list => ']'
  | .object => '\x7d'

/-- The text ends in a container. -/
def endFault : Bracket → Fault
  | .list => .endOfList
  | .object => .endOfObject

/-- Behind an item stands neither a comma nor the end of the container. -/
def commaFault : Bracket → Fault
  | .list => .expectedCommaOrBracket
  | .object => .expectedCommaOrBrace

end Bracket

/-- One character of a string that is passed over. -/
def passedStep (mode : StringMode) (position : Position) (c : Char) :
    Except SyntaxError StringStep :=
  match mode with
  | .plain =>
    if c.toNat < 0x20 then .error ⟨.controlCharacter, position⟩ else stringStep mode position c
  | .hex left value _ => hexStep left value none (fun _ => .ok (.go .plain [])) position c
  | _ => stringStep mode position c

/-- Pass over a string behind its opening quote. -/
def passString (c : Cursor) : Reading c Unit :=
  (stringFrom passedStep .plain c.rest c.position).map fun found => ((), found.2)

/-- Pass over digits; with them, whether there were any. -/
def passDigits (c : Cursor) : Bool × c.Later :=
  let (digits, behind) := c.split Char.isDigit
  (!digits.isEmpty, behind)

/-- Pass over the exponent of a numeral, if there is one. -/
def passExponent (c : Cursor) : Reading c Unit :=
  match c.rest with
  | 'e' :: _ | 'E' :: _ =>
    let signed := match c.next.1.rest with
      | '+' :: _ | '-' :: _ => c.next.then c.next.1.next
      | _ => c.next
    let (found, behind) := passDigits signed.1
    if found then .ok ((), signed.then behind) else Reading.failPeek signed.1 .invalidNumber
  | _ => .ok ((), c.stay)

/-- Pass over the fraction of a numeral, if there is one, and the exponent. -/
def passFraction (c : Cursor) : Reading c Unit :=
  match c.rest with
  | '.' :: _ =>
    let (found, behind) := passDigits c.next.1
    if found then Reading.from' (c.next.then behind) (passExponent behind.1)
    else Reading.failPeek c.next.1 .invalidNumber
  | _ => passExponent c

/-- Pass over a numeral behind its first digit. -/
def passNumeral (first : Char) (c : Cursor) : Reading c Unit :=
  let (found, behind) := passDigits c
  if first = '0' && found then Reading.failPeek c .invalidNumber
  else Reading.from' behind (passFraction behind.1)

/-- Pass over a scalar behind its first character. -/
def passScalar (first : Char) (c : Cursor) : Reading c Unit :=
  let word := fun letters : List Char =>
    Reading.andThen (wordAt .null letters c) fun _ n => .ok ((), n.stay)
  match first with
  | 'n' => word ['u', 'l', 'l']
  | 't' => word ['r', 'u', 'e']
  | 'f' => word ['a', 'l', 's', 'e']
  | '"' => passString c
  | '-' =>
    match c.rest with
    | digit :: _ =>
      if digit.isDigit then Reading.from' c.next (passNumeral digit c.next.1)
      else Reading.failPeek c .invalidNumber
    | [] => Reading.failPeek c .invalidNumber
  | _ => passNumeral first c

/-- Can a scalar begin with a character? -/
def beginsScalar (c : Char) : Bool := ['n', 't', 'f', '"', '-'].contains c || c.isDigit

/-- Pass over what stands in front of the value of an item: nothing in a list, a key and a colon in
an object. -/
def passKey (bracket : Bracket) (c : Cursor) : Reading c Unit :=
  match bracket with
  | .list => .ok ((), c.stay)
  | .object =>
    let b := skipBlanks c
    match b.1.rest with
    | [] => Reading.failPeek b.1 .endOfObject
    | '"' :: _ =>
      Reading.from' (b.then b.1.next)
        (Reading.andThen (passString b.1.next.1) fun _ n => colonAt n)
    | _ => Reading.failPeek b.1 .keyNotString

mutual

/-- Pass over a value and what is left of the containers around it. -/
def passValue (around : List Bracket) (c : Cursor) : Reading c Unit :=
  let b := skipBlanks c
  let n := b.1.next
  match _h : b.1.rest with
  | [] => Reading.failPeek b.1 .endOfValue
  | first :: _ =>
    match Bracket.opened? first with
    | some bracket =>
      let a := skipBlanks n.1
      if a.1.rest.isEmpty then Reading.failPeek a.1 bracket.endFault
      else if a.1.rest.head? = some bracket.closing then
        Reading.from' (b.then (n.then (a.then a.1.next))) (passMore around a.1.next.1)
      else
        match passKey bracket a.1 with
        | .error e => .error e
        | .ok (_, m) =>
          Reading.from' (b.then (n.then (a.then m))) (passValue (bracket :: around) m.1)
    | none =>
      if beginsScalar first then
        match passScalar first n.1 with
        | .error e => .error e
        | .ok (_, m) => Reading.from' (b.then (n.then m)) (passMore around m.1)
      else Reading.failPeek b.1 .expectedValue
  termination_by c.left
  decreasing_by
    all_goals have hn := Cursor.next_left_lt _h
    · exact Nat.lt_of_le_of_lt (Nat.le_trans a.1.next.2 a.2) (Nat.lt_of_lt_of_le hn b.2)
    · exact Nat.lt_of_le_of_lt (Nat.le_trans m.2 a.2) (Nat.lt_of_lt_of_le hn b.2)
    · exact Nat.lt_of_le_of_lt m.2 (Nat.lt_of_lt_of_le hn b.2)

/-- Pass over what is left of the containers around a place behind a value. -/
def passMore (around : List Bracket) (c : Cursor) : Reading c Unit :=
  match around with
  | [] => .ok ((), c.stay)
  | bracket :: outer =>
    let b := skipBlanks c
    let n := b.1.next
    match _h : b.1.rest with
    | [] => Reading.failPeek b.1 bracket.endFault
    | first :: _ =>
      if first = bracket.closing then Reading.from' (b.then n) (passMore outer n.1)
      else if first = ',' then
        match passKey bracket n.1 with
        | .error e => .error e
        | .ok (_, m) => Reading.from' (b.then (n.then m)) (passValue (bracket :: outer) m.1)
      else Reading.failPeek b.1 bracket.commaFault
  termination_by c.left
  decreasing_by
    all_goals have hn := Cursor.next_left_lt _h
    · exact Nat.lt_of_lt_of_le hn b.2
    · exact Nat.lt_of_le_of_lt m.2 (Nat.lt_of_lt_of_le hn b.2)

end

/-- Pass over a value that nobody asked for. -/
def skipValue (c : Cursor) : Reading c Unit := passValue [] c

end Reshape.Json
