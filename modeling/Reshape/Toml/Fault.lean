/-!
# What can be wrong with a TOML text

A fault says which part of the text it takes, of what kind the part that was being read is, what was
expected there, and its cause. Each of these has a line of its own in the message, below the line of
the text with carets under the part.
-/
namespace Reshape.Toml

/-- A part of a text: the offsets in bytes where it begins and ends. -/
structure Span where
  start : Nat
  stop : Nat
  deriving DecidableEq, Repr

/-- The kinds of parts of a text. -/
inductive Part where
  | key
  | tableHeader
  | string
  | basicString
  | literalString
  | multilineBasicString
  | multilineLiteralString
  | escape
  | shortCode
  | longCode
  | integer
  | hexInteger
  | octalInteger
  | binaryInteger
  | float
  | dateTime
  | time
  | timeOffset
  | array
  | inlineTable
  deriving DecidableEq, Repr

def Part.name : Part → String
  | .key => "key"
  | .tableHeader => "table header"
  | .string => "string"
  | .basicString => "basic string"
  | .literalString => "literal string"
  | .multilineBasicString => "multiline basic string"
  | .multilineLiteralString => "multiline literal string"
  | .escape => "escape sequence"
  | .shortCode => "unicode 4-digit hex code"
  | .longCode => "unicode 8-digit hex code"
  | .integer => "integer"
  | .hexInteger => "hexadecimal integer"
  | .octalInteger => "octal integer"
  | .binaryInteger => "binary integer"
  | .float => "floating-point number"
  | .dateTime => "date-time"
  | .time => "time"
  | .timeOffset => "time offset"
  | .array => "array"
  | .inlineTable => "inline table"

/-- What could stand in a place. -/
inductive Wanted where
  | text (s : String)
  | newline
  | digit
  | leadingDigit
  deriving DecidableEq, Repr

def Wanted.name : Wanted → String
  | .text s => s!"`{s}`"
  | .newline => "newline"
  | .digit => "digit"
  | .leadingDigit => "leading digit"

/-- What is wrong with a part that has the right form. -/
inductive Cause where
  | outOfRange
  | tooLarge
  | tooSmall
  | recursionLimit
  | duplicate (name : String)
  /-- A key that is in a table already, which the path to it names. -/
  | duplicateIn (name : String) (table : List String)
  /-- A path that leads through something that is no table. -/
  | notTable (path : List String) (kind : String)
  /-- The value is not what was expected. -/
  | content (message : String)
  deriving DecidableEq, Repr

def Cause.message : Cause → String
  | .outOfRange => "value is out of range"
  | .tooLarge => "number too large to fit in target type"
  | .tooSmall => "number too small to fit in target type"
  | .recursionLimit => "recursion limit exceeded"
  | .duplicate name => s!"duplicate key `{name}`"
  | .duplicateIn name [] => s!"duplicate key `{name}` in document root"
  | .duplicateIn name table =>
    let path := ".".intercalate table
    s!"duplicate key `{name}` in table `{path}`"
  | .notTable path kind =>
    let name := ".".intercalate path
    s!"dotted key `{name}` attempted to extend non-table type ({kind})"
  | .content message => message

structure Fault where
  span : Span
  /-- The innermost part that was being read. -/
  within : Option Part
  wanted : List Wanted
  cause : Option Cause
  deriving DecidableEq, Repr

namespace Fault

/-- What is wrong, in lines. -/
def text (fault : Fault) : String :=
  let part := fault.within.map fun part => s!"invalid {part.name}"
  let wanted :=
    if fault.wanted.isEmpty then none
    else some ("expected " ++ ", ".intercalate (fault.wanted.map Wanted.name))
  "\n".intercalate (part.toList ++ wanted.toList ++ (fault.cause.map Cause.message).toList)

/-- The line and the column of an offset, both from zero. Columns count characters, but bytes in
front of a character that takes more than one. The end of the text belongs to the line of its last
character. `column` characters and `bytes` bytes of the line were passed. -/
def locate (line column bytes offset : Nat) : List Char → Nat × Nat
  | [] => (line, column)
  | c :: rest =>
    if offset = 0 then (line, if c.utf8Size = 1 then column else bytes)
    else if c = '\n' && !rest.isEmpty then locate (line + 1) 0 0 (offset - 1) rest
    else locate line (column + 1) (bytes + c.utf8Size) (offset - c.utf8Size) rest

/-- The message on a fault of a text. -/
def message (content : String) (fault : Fault) : String :=
  let (line, column) := locate 0 0 0 fault.span.start content.toList
  let shown := ((content.splitOn "\n")[line]?).getD ""
  let number := toString (line + 1)
  let blanks := fun count => String.ofList (List.replicate count ' ')
  let carets := max 1 (min (fault.span.stop - fault.span.start) shown.utf8ByteSize)
  s!"TOML parse error at line {number}, column {column + 1}\n" ++
    blanks (number.length + 1) ++ "|\n" ++
    s!"{number} | {shown}\n" ++
    blanks (number.length + 1) ++ "|" ++ blanks (column + 1) ++
    String.ofList (List.replicate carets '^') ++ "\n" ++
    fault.text ++ "\n"

end Fault
end Reshape.Toml
