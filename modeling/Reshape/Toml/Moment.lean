import Reshape.Toml.Numeral

/-!
# Dates and times of TOML

A date, a time, or both with a letter or a blank between them and the offset of a place behind them.
A date-time is kept as the text that writes it in one way: with a capital letter between its parts,
and with as many digits of a second's fraction as are needed.
-/
namespace Reshape.Toml

/-- A number of so many digits within bounds, and its place behind. -/
def boundedAt (width least greatest : Nat) (p : Place) : Except Refusal (Nat × Place) :=
  let digits := p.rest.take width
  if digits.length < width || !digits.all Char.isDigit then p.refuse none
  else
    let n := valueIn 10 digits
    if least ≤ n && n ≤ greatest then .ok (n, p.skip width)
    else p.refuse none [] (some .outOfRange)

/-- A number in so many digits. -/
def padded (width n : Nat) : String :=
  let digits := Nat.toDigits 10 n
  String.ofList (List.replicate (width - digits.length) '0' ++ digits)

/-- How many days a month has. -/
def daysOf (year month : Nat) : Nat :=
  let isLeap := year % 4 = 0 && (year % 100 ≠ 0 || year % 400 = 0)
  if month = 2 then (if isLeap then 29 else 28)
  else if [4, 6, 9, 11].contains month then 30
  else 31

/-- A date: four digits and a dash begin nothing else. -/
def dateAt (p : Place) : Except Refusal (String × Place) := do
  let (year, behind) ← boundedAt 4 0 9999 p
  let monthPlace ← behind.expect "-"
  final do
    let (month, behind) ← boundedAt 2 1 12 monthPlace
    let dayPlace ← behind.expect "-"
    let (day, behind) ← boundedAt 2 1 31 dayPlace
    if daysOf year month < day then dayPlace.refuse none [] (some .outOfRange)
    else return (s!"{padded 4 year}-{padded 2 month}-{padded 2 day}", behind)

/-- The fraction of a second, up to nine digits without zeros at the end. -/
def secondFractionAt (p : Place) : Except Refusal (String × Place) := do
  let point ← p.expect "."
  let (digits, behind) := point.split Char.isDigit
  if digits.isEmpty then point.refuse none
  else
    let shown := ((digits.take 9).reverse.dropWhile (· = '0')).reverse
    return (if shown.isEmpty then "" else "." ++ String.ofList shown, behind)

/-- A time: two digits and a colon begin nothing else. -/
def timeAt (p : Place) : Except Refusal (String × Place) := do
  let (hour, behind) ← boundedAt 2 0 23 p
  let minutePlace ← behind.expect ":"
  final do
    let (minute, behind) ← boundedAt 2 0 59 minutePlace
    let secondPlace ← behind.expect ":"
    let (second, behind) ← boundedAt 2 0 60 secondPlace
    let (fraction, behind) ← optional behind (secondFractionAt behind)
    let whole := s!"{padded 2 hour}:{padded 2 minute}:{padded 2 second}"
    return (whole ++ fraction.getD "", behind)

/-- The offset of a place: none, or hours and minutes behind a sign. -/
def timeOffsetAt (p : Place) : Except Refusal (String × Place) := within .timeOffset do
  match p.head? with
  | some 'Z' | some 'z' => return ("Z", p.skip 1)
  | some '+' | some '-' =>
    final do
      let (hour, behind) ← boundedAt 2 0 23 (p.skip 1)
      let minutePlace ← behind.expect ":"
      let (minute, behind) ← boundedAt 2 0 59 minutePlace
      let sign := if p.head? = some '-' && hour + minute ≠ 0 then "-" else "+"
      return (s!"{sign}{padded 2 hour}:{padded 2 minute}", behind)
  | _ => p.refuse none

/-- A time behind a date, and the offset of its place. -/
def timeOfDateAt (p : Place) : Except Refusal (String × Place) :=
  if p.head?.any ['T', 't', ' '].contains then do
    let (time, behind) ← timeAt (p.skip 1)
    let (timeOffset, behind) ← optional behind (timeOffsetAt behind)
    return ("T" ++ time ++ timeOffset.getD "", behind)
  else p.refuse none

/-- A date, a time or both, as its text. -/
def momentAt (p : Place) : Except Refusal (String × Place) :=
  orElse
    (within .dateTime do
      let (date, behind) ← dateAt p
      let (time, behind) ← optional behind (timeOfDateAt behind)
      return (date ++ time.getD "", behind))
    fun _ => within .time (timeAt p)

end Reshape.Toml
