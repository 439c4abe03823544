import Reshape.Json.Cursor

/-!
# What can be wrong with a JSON text

The faults of the text form, each with its wording, and the place where one was noticed. A fault is
noticed either at the place that was reached or, where only the next byte showed it, one byte on.
-/
namespace Reshape.Json

inductive Fault where
  | endOfList
  | endOfObject
  | endOfString
  | endOfValue
  | expectedColon
  | expectedCommaOrBracket
  | expectedCommaOrBrace
  | expectedIdent
  | expectedValue
  | invalidEscape
  | invalidNumber
  | numberOutOfRange
  | loneSurrogate
  | endOfHexEscape
  | controlCharacter
  | keyNotString
  | trailingComma
  | trailingCharacters
  | recursionLimit
  /-- The text is well formed up to here but does not hold what it should. -/
  | content (message : String)
  deriving DecidableEq, Repr

def Fault.message : Fault → String
  | .endOfList => "EOF while parsing a list"
  | .endOfObject => "EOF while parsing an object"
  | .endOfString => "EOF while parsing a string"
  | .endOfValue => "EOF while parsing a value"
  | .expectedColon => "expected `:`"
  | .expectedCommaOrBracket => "expected `,` or `]`"
  | .expectedCommaOrBrace => "expected `,` or `\x7d`"
  | .expectedIdent => "expected ident"
  | .expectedValue => "expected value"
  | .invalidEscape => "invalid escape"
  | .invalidNumber => "invalid number"
  | .numberOutOfRange => "number out of range"
  | .loneSurrogate => "lone leading surrogate in hex escape"
  | .endOfHexEscape => "unexpected end of hex escape"
  | .controlCharacter => "control character (\\u0000-\\u001F) found while parsing a string"
  | .keyNotString => "key must be a string"
  | .trailingComma => "trailing comma"
  | .trailingCharacters => "trailing characters"
  | .recursionLimit => "recursion limit exceeded"
  | .content message => message

/-- A fault and where it was noticed. -/
structure SyntaxError where
  fault : Fault
  position : Position
  deriving DecidableEq, Repr

def SyntaxError.message (e : SyntaxError) : String :=
  s!"{e.fault.message} at line {e.position.line} column {e.position.column}"

/-- A result read from a place, with the place behind it. -/
abbrev Reading (c : Cursor) (α : Type) := Except SyntaxError (α × c.Later)

namespace Reading

/-- Fault noticed at the place that was reached. -/
def fail {c : Cursor} {α : Type} (at_ : Cursor) (fault : Fault) : Reading c α :=
  .error ⟨fault, at_.position⟩

/-- Fault shown by the next byte. -/
def failPeek {c : Cursor} {α : Type} (at_ : Cursor) (fault : Fault) : Reading c α :=
  .error ⟨fault, at_.peekPosition⟩

/-- Go on reading at a later place. -/
def from' {c : Cursor} {α : Type} (l : c.Later) (r : Reading l.1 α) : Reading c α :=
  match r with
  | .ok (a, n) => .ok (a, l.then n)
  | .error e => .error e

/-- Go on with a result from the place behind it. -/
def andThen {c : Cursor} {α β : Type} (r : Reading c α) (f : α → (n : Cursor) → Reading n β) :
    Reading c β :=
  match r with
  | .ok (a, n) => from' n (f a n.1)
  | .error e => .error e

end Reading
end Reshape.Json
