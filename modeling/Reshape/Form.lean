import Reshape.Value.Found

/-!
# Forms

A form says what a value must look like to be decoded: free data, a text, a flag, something that may
be null, a record of named parts, or a table of entries of one form. Reading a value by a form gives
the value in normal form: records as objects that hold known parts only, also where a list in the
order of the parts was given. What is read by a form can then be taken apart without looking for
errors.
-/
namespace Reshape

inductive Form where
  | free
  | text
  | flag
  | optional (form : Form)
  /-- A record that errors call by its name. Every part may be missing. -/
  | record (name : String) (parts : List (String × Form))
  | table (entry : Form)

namespace Form

/-- What an error says was expected. -/
def expected : Form → String
  | .free => "any value"
  | .text => "a string"
  | .flag => "a boolean"
  | .optional form => form.expected
  | .record name _ => s!"struct {name}"
  | .table _ => "a map"

/-- The names of the parts of a record. -/
def partNames (parts : List (String × Form)) : List String := parts.map (·.1)

/-- A list for a record holds more items than the record has parts. -/
def tooLong (length : Nat) : String := s!"invalid length {length}, expected fewer elements in array"

/-- A part of a record that was given before. -/
def duplicate (name : String) : String := s!"duplicate field `{name}`"

mutual

/-- Read a value by a form. -/
def read : Form → Value → Except String Value
  | .free, value => .ok value
  | .text, .text s => .ok (.text s)
  | .flag, .bool b => .ok (.bool b)
  | .optional _, .null => .ok .null
  | .optional form, value => read form value
  | .record _ parts, .object fields => do
    return .object (← fields.filterMapM fun field => readPart parts field.1 field.2)
  | .record _ parts, .list items => do
    let fields ← readParts parts items
    if parts.length < items.length then .error (tooLong items.length)
    else return .object fields
  | .table entry, .object fields => do
    return .object (← fields.mapM fun field => do return (field.1, ← read entry field.2))
  | form, value => .error (value.mismatch form.expected)

/-- A field of a record; none if the record has no such part. -/
def readPart : List (String × Form) → String → Value → Except String (Option (String × Value))
  | [], _, _ => .ok none
  | (name, form) :: parts, key, value =>
    if name = key then do return some (name, ← read form value) else readPart parts key value

/-- The parts of a record from a list in their order, as far as it goes. -/
def readParts : List (String × Form) → List Value → Except String (List (String × Value))
  | (name, form) :: parts, value :: rest => do
    let value ← read form value
    return (name, value) :: (← readParts parts rest)
  | _, _ => .ok []

end

/-- The names with commas or an `or` between them, in back quotes. -/
def alternatives : List String → String
  | [a] => s!"expected `{a}`"
  | [a, b] => s!"expected `{a}` or `{b}`"
  | names => "expected one of " ++ ", ".intercalate (names.map fun name => s!"`{name}`")

/-- One of some names: alone as a text, or as the only key of an object whose value is null. -/
def choice (names : List String) : Value → Except String String
  | .text name => named name .null
  | .object [(name, value)] => named name value
  | .object _ => .error "invalid value: map, expected map with a single key"
  | other => .error (other.mismatch "string or map")
where
  /-- The name, if it is known and nothing comes with it. -/
  named (name : String) (content : Value) : Except String String :=
    if names.contains name then
      if content.isNull then .ok name else .error (content.mismatch "unit")
    else .error s!"unknown variant `{name}`, {alternatives names}"

end Form
end Reshape
