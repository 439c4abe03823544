import Reshape.Form
import Reshape.Toml.Statement

/-!
# Reading TOML by a form

Reads the tables of a text by a form. A value that is not what the form asks for is reported at the
part of the text that gives it, or at its key if no one part does. A record may also be given as an
array of its parts in their order; more items than parts do no harm.
-/
namespace Reshape.Toml

/-- The key of the only entry of a date or a time where it is taken apart. -/
def momentKey : String := "$__toml_private_datetime"

/-- What a number is for a reader who expected something else. -/
def Fractional.found : Fractional → String
  | .finite x => (Value.number (.float x)).foundIn .described
  | .infinite negative =>
    let sign := signText negative
    s!"floating point `{sign}inf`"
  | .notANumber => "floating point `NaN`"

/-- A single value as it is. A number that no decimal can write becomes null. -/
def Datum.toValue : Datum → Value
  | .text s => .text s
  | .int n => .int n
  | .fractional (.finite x) => .number (.float x)
  | .fractional _ => .null
  | .bool b => .bool b
  | .moment s => .object [(momentKey, .text s)]

namespace Item

mutual

/-- An item as a value. -/
def toValue : Item → Value
  | .single _ datum => datum.toValue
  | .array _ items | .rows items => .list (toValues items)
  | .table _ entries => .object (toFields entries)

def toValues : List Item → List Value
  | [] => []
  | item :: rest => toValue item :: toValues rest

def toFields : List (Key × Item) → List (String × Value)
  | [] => []
  | (key, item) :: rest => (key.name, toValue item) :: toFields rest

end

/-- What an item is for a reader who expected something else. -/
def found : Item → String
  | .single _ (.fractional x) => x.found
  | .single _ datum => datum.toValue.foundIn .described
  | .array .. | .rows _ => (Value.list []).found
  | .table .. => (Value.object []).found

/-- An item stands where something else should. `place` is its key. -/
def mismatch (item : Item) (place : Span) (expected : String) : Fault :=
  let message := s!"invalid type: {item.found}, expected {expected}"
  ⟨item.span?.getD place, none, [], some (.content message)⟩

/-- The entries of what can be taken apart into entries: a table, or a date or a time. -/
def entries? : Item → Option Entries
  | .table _ entries => some entries
  | .single span (.moment text) => some [(⟨momentKey, span⟩, .single span (.text text))]
  | _ => none

/-- The items of an array. -/
def items? : Item → Option (List Item)
  | .array _ items | .rows items => some items
  | _ => none

mutual

/-- A value of a form. -/
def readAs (place : Span) : Form → Item → Except Fault Value
  | .free, item => .ok item.toValue
  | .optional form, item => readAs place form item
  | .text, item =>
    match item with
    | .single _ (.text s) => .ok (.text s)
    | other => .error (other.mismatch place Form.text.expected)
  | .flag, item =>
    match item with
    | .single _ (.bool b) => .ok (.bool b)
    | other => .error (other.mismatch place Form.flag.expected)
  | .record name parts, item =>
    match item.entries?, item.items? with
    | some entries, _ => do
      return .object (← entries.filterMapM fun entry => readPart parts entry.1 entry.2)
    | none, some items => return .object (← readParts place parts items)
    | none, none => .error (item.mismatch place (Form.record name parts).expected)
  | .table entry, item =>
    match item.entries? with
    | some entries => do
      return .object (← entries.mapM fun (key, item) => do
        return (key.name, ← readAs key.span entry item))
    | none => .error (item.mismatch place (Form.table entry).expected)

/-- A field of a record; none if the record has no such part. -/
def readPart : List (String × Form) → Key → Item → Except Fault (Option (String × Value))
  | [], _, _ => .ok none
  | (name, form) :: parts, key, item =>
    if name = key.name then do return some (name, ← readAs key.span form item)
    else readPart parts key item

/-- The parts of a record from an array in their order, as far as it goes. -/
def readParts (place : Span) :
    List (String × Form) → List Item → Except Fault (List (String × Value))
  | (name, form) :: parts, item :: rest => do
    let value ← readAs place form item
    return (name, value) :: (← readParts place parts rest)
  | _, _ => .ok []

end
end Item

/-- Read a text by a form; a fault comes as its message. -/
def read (form : Form) (text : String) : Except String Value :=
  let result := do
    (Item.table (.header ⟨0, 0⟩) (← Document.ofText text)).readAs ⟨0, 0⟩ form
  result.mapError (Fault.message text)

end Reshape.Toml
