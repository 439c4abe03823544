import Reshape.Json.Writer
import Reshape.Value
import Reshape.Yaml.Character
import Reshape.Yaml.Scalar

/-!
# YAML text of a value

Block style throughout: a field or an item a line, two more spaces a level, lists below a key at the
key's own column, empty containers in brackets. A text is written plain where it can be read back
so; else in single quotes, and in double quotes if a character must be escaped. A text of several
lines becomes a literal block, unless its blanks forbid it.
-/
namespace Reshape.Yaml

/-- Does a character behind another one stop a text from being plain? A colon does before a blank,
and a hash behind one. -/
def hasIndicatorBehind (previous : Char) : List Char → Bool
  | [] => false
  | c :: rest =>
    (c = ':' && isBlankOrEnd rest.head?) || (c = '#' && isBlankOrEnd (some previous)) ||
      hasIndicatorBehind c rest

/-- Characters that cannot begin a plain text. -/
def startIndicators : List Char :=
  ['#', ',', '[', ']', '\x7b', '\x7d', '&', '*', '!', '|', '>', '\'', '"', '%', '@', '\x60']

/-- Would a text be taken for something else if it were plain? -/
def hasIndicator : List Char → Bool
  | [] => false
  | c :: rest =>
    ['-', '-', '-'].isPrefixOf (c :: rest) || ['.', '.', '.'].isPrefixOf (c :: rest) ||
      startIndicators.contains c ||
      (['?', ':', '-'].contains c && isBlankOrEnd rest.head?) || hasIndicatorBehind c rest

/-- Do two neighbours satisfy two conditions? -/
def hasNeighbours (p q : Char → Bool) (cs : List Char) : Bool :=
  (cs.zip (cs.drop 1)).any fun pair => p pair.1 && q pair.2

/-- How a text is written. -/
inductive Style where
  | plain
  | single
  | double
  | literal
  deriving DecidableEq, Repr

/-- A blank within a line. -/
def isSpace (c : Char) : Bool := c = ' '

/-- May a text be written in quotes or as a block without an escape? -/
def isVerbatim (cs : List Char) : Bool :=
  cs.all isPrintable && !hasNeighbours isSpace isBreak cs

/-- May a text stand between single quotes? -/
def fitsSingle (cs : List Char) : Bool := isVerbatim cs && !hasNeighbours isBreak isSpace cs

/-- May a text stand plain? -/
def fitsPlain (cs : List Char) : Bool :=
  let outer := fun c : Option Char => c.any fun c => isSpace c || isBreak c
  fitsSingle cs && !outer cs.head? && !outer cs.getLast? && !cs.any isBreak && !hasIndicator cs

/-- May a text be a literal block? -/
def fitsLiteral (cs : List Char) : Bool :=
  isVerbatim cs && !cs.isEmpty && !cs.getLast?.any isSpace

/-- The style of a text. -/
def Style.ofText (text : String) : Style :=
  let cs := text.toList
  if cs.contains '\n' then
    if fitsLiteral cs then .literal else .double
  else if isTextAsPlain text && fitsPlain cs then .plain
  else if fitsSingle cs then .single
  else .double

/-- Blanks up to a column. -/
def spaces (column : Nat) : List Char := List.replicate column ' '

/-- A text between its single quotes: quotes are doubled, and a line behind a break is indented. -/
def singleFrom (column : Nat) (fresh : Bool) : List Char → List Char
  | [] => if fresh then spaces column else []
  | c :: rest =>
    if isBreak c then c :: singleFrom column true rest
    else
      (if fresh then spaces column else []) ++ (if c = '\'' then ['\'', '\''] else [c]) ++
        singleFrom column false rest

/-- The lowest digits of a number in base sixteen, in capitals. -/
def hexDigits : Nat → Nat → List Char
  | 0, _ => []
  | width + 1, n => hexDigits width (n / 16) ++ [(Nat.digitChar (n % 16)).toUpper]

/-- A character between double quotes. -/
def doubleChar (c : Char) : List Char :=
  if c = '"' then ['\\', '"']
  else if c = '\\' then ['\\', '\\']
  else if isPrintable c && !isBreak c then [c]
  else
    match c.toNat with
    | 0x00 => ['\\', '0']
    | 0x07 => ['\\', 'a']
    | 0x08 => ['\\', 'b']
    | 0x09 => ['\\', 't']
    | 0x0A => ['\\', 'n']
    | 0x0B => ['\\', 'v']
    | 0x0C => ['\\', 'f']
    | 0x0D => ['\\', 'r']
    | 0x1B => ['\\', 'e']
    | 0x85 => ['\\', 'N']
    | 0x2028 => ['\\', 'L']
    | 0x2029 => ['\\', 'P']
    | code =>
      if code ≤ 0xFF then ['\\', 'x'] ++ hexDigits 2 code
      else if code ≤ 0xFFFF then ['\\', 'u'] ++ hexDigits 4 code
      else ['\\', 'U'] ++ hexDigits 8 code

/-- The lines of a literal block, indented unless they are empty. -/
def literalFrom (column : Nat) (fresh : Bool) : List Char → List Char
  | [] => []
  | c :: rest =>
    if isBreak c then c :: literalFrom column true rest
    else (if fresh then spaces column else []) ++ c :: literalFrom column false rest

/-- The head of a literal block: an indentation that its first line would not show, and whether the
breaks at its end are all dropped or all kept. -/
def literalHead (cs : List Char) : List Char :=
  let indentation := if cs.head?.any fun c => isSpace c || isBreak c then ['2'] else []
  let ending := match cs.reverse with
    | last :: before =>
      if !isBreak last then ['-'] else if before.head?.all isBreak then ['+'] else []
    | [] => ['-']
  '|' :: indentation ++ ending

/-- A text; lines behind its first one begin at a column. -/
def textFrom (column : Nat) (text : String) : String :=
  let cs := text.toList
  String.ofList <| match Style.ofText text with
    | .plain => cs
    | .single => '\'' :: singleFrom column false cs ++ ['\'']
    | .double => '"' :: cs.flatMap doubleChar ++ ['"']
    | .literal => literalHead cs ++ '\n' :: literalFrom column true cs

/-- The text of a number. -/
def numberText : Number → String
  | .int n => toString n
  | .float x => x.text .yaml

/-- The text with a line break behind it, unless it ends in one. -/
def closeLine (text : String) : String :=
  if text.toList.getLast?.any isBreak then text else text ++ "\n"

/-- Parts one below the other, from a column on. -/
def stack (column : Nat) : List String → String
  | [] => ""
  | [part] => part
  | part :: rest => closeLine part ++ String.ofList (spaces column) ++ stack column rest

/-- Where a value stands: at the top, behind a key, or behind a dash or another mark. -/
inductive Place where
  | top
  | key
  | mark
  deriving DecidableEq, Repr

/-- The column of the fields of an object in a container at a column. -/
def Place.objectColumn : Place → Nat → Nat
  | .top, _ => 0
  | _, column => column + 2

/-- The column of the items of a list in a container at a column. -/
def Place.listColumn : Place → Nat → Nat
  | .top, _ => 0
  | .key, column => column
  | .mark, column => column + 2

/-- What stands between a mark or key and a text. -/
def Place.gap : Place → String
  | .top => ""
  | _ => " "

/-- What stands between a mark or key and the lines of a container at a column. -/
def Place.opening : Place → Nat → String
  | .top, _ => ""
  | .key, column => "\n" ++ String.ofList (spaces column)
  | .mark, _ => " "

/-- The column of further lines of a text. -/
def Place.textColumn : Place → Nat → Nat
  | .top, _ => 2
  | _, column => column + 2

/-- Does a key go before its colon? One of several lines or of great length stands behind a mark of
its own. -/
def isSimpleKey (key : String) : Bool := !key.toList.any isBreak && key.utf8ByteSize ≤ 128

/-- A field at a column, given the text of its value at each place. -/
def fieldText (column : Nat) (key : String) (value : Place → String) : String :=
  let keyText := textFrom (column + 2) key
  if isSimpleKey key then keyText ++ ":" ++ value .key
  else stack column ["? " ++ keyText, ":" ++ value .mark]

mutual

/-- A value behind its mark or key, in a container at a column. -/
def valueText (column : Nat) (place : Place) : Value → String
  | .null => place.gap ++ "null"
  | .bool b => place.gap ++ (if b then "true" else "false")
  | .number n => place.gap ++ numberText n
  | .text s => place.gap ++ textFrom (place.textColumn column) s
  | .list [] => place.gap ++ "[]"
  | .list items =>
    let inner := place.listColumn column
    place.opening inner ++ stack inner (itemTexts inner items)
  | .object [] => place.gap ++ "\x7b\x7d"
  | .object fields =>
    let inner := place.objectColumn column
    place.opening inner ++ stack inner (fieldTexts inner fields)

/-- The items of a list at a column. -/
def itemTexts (column : Nat) : List Value → List String
  | [] => []
  | item :: rest => ("-" ++ valueText column .mark item) :: itemTexts column rest

/-- The fields of an object at a column. -/
def fieldTexts (column : Nat) : List (String × Value) → List String
  | [] => []
  | (key, value) :: rest =>
    fieldText column key (fun place => valueText column place value) :: fieldTexts column rest

end

/-- The YAML text of a value. -/
def write (value : Value) : String := closeLine (valueText 0 .top value)

end Reshape.Yaml
