import Reshape.Value
import Reshape.Binary64.Text

/-!
# JSON text of a value

Two forms: compact, without any blank, and pretty, one item a line and two more spaces a level, in
which empty containers stay on one line. Both write fields in their order.
-/
namespace Reshape.Json

/-- A character of a JSON string: quotes, backslashes and control characters are escaped, all else
stands for itself. -/
def escapedChar (c : Char) : List Char :=
  if c = '"' then ['\\', '"']
  else if c = '\\' then ['\\', '\\']
  else if c = '\x08' then ['\\', 'b']
  else if c = '\x0c' then ['\\', 'f']
  else if c = '\n' then ['\\', 'n']
  else if c = '\r' then ['\\', 'r']
  else if c = '\t' then ['\\', 't']
  else if c.toNat < 0x20 then
    ['\\', 'u', '0', '0', Nat.digitChar (c.toNat / 16), Nat.digitChar (c.toNat % 16)]
  else [c]

/-- A JSON string. -/
def quote (s : String) : String :=
  "\"" ++ String.ofList (s.toList.flatMap escapedChar) ++ "\""

def numberText : Number → String
  | .int n => toString n
  | .float x => x.text .json

/-- The parts with a comma between them. -/
def commaJoin (parts : List String) : String := String.intercalate "," parts

mutual

/-- The compact form. -/
def compact : Value → String
  | .null => "null"
  | .bool b => if b then "true" else "false"
  | .number n => numberText n
  | .text s => quote s
  | .list items => "[" ++ commaJoin (compactItems items) ++ "]"
  | .object fields => "\x7b" ++ commaJoin (compactFields fields) ++ "\x7d"

def compactItems : List Value → List String
  | [] => []
  | item :: rest => compact item :: compactItems rest

def compactFields : List (String × Value) → List String
  | [] => []
  | (key, value) :: rest => (quote key ++ ":" ++ compact value) :: compactFields rest

end

/-- A line break and the indentation of a level. -/
def newline (level : Nat) : String := "\n" ++ String.ofList (List.replicate (2 * level) ' ')

/-- The items of a container, one a line, between its brackets. -/
def bracketed (opening closing : String) (level : Nat) (items : List String) : String :=
  if items.isEmpty then opening ++ closing
  else
    opening ++ newline (level + 1) ++ String.intercalate ("," ++ newline (level + 1)) items ++
      newline level ++ closing

mutual

/-- The pretty form of a value whose container is at a level. -/
def prettyAt (level : Nat) : Value → String
  | .null => "null"
  | .bool b => if b then "true" else "false"
  | .number n => numberText n
  | .text s => quote s
  | .list items => bracketed "[" "]" level (prettyItems (level + 1) items)
  | .object fields => bracketed "\x7b" "\x7d" level (prettyFields (level + 1) fields)

def prettyItems (level : Nat) : List Value → List String
  | [] => []
  | item :: rest => prettyAt level item :: prettyItems level rest

def prettyFields (level : Nat) : List (String × Value) → List String
  | [] => []
  | (key, value) :: rest =>
    (quote key ++ ": " ++ prettyAt level value) :: prettyFields level rest

end

/-- The pretty form. -/
def pretty (value : Value) : String := prettyAt 0 value

end Reshape.Json
