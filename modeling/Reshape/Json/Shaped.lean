import Reshape.Form
import Reshape.Json.Skip

/-!
# JSON text of a given form

Reads a text and its form at once, so that of two faults the earlier one is reported. A scalar of
the wrong kind is reported behind it and a container in front of it.
-/
namespace Reshape.Json

/-- The fault that a value at its first character is not what was expected. -/
def mismatchAt (expected : String) (c : Cursor) : SyntaxError :=
  match c.rest with
  | '[' :: _ => ⟨.content ((Value.list []).mismatch expected), c.position⟩
  | '\x7b' :: _ => ⟨.content ((Value.object []).mismatch expected), c.position⟩
  | _ =>
    match valueWith none c with
    | .ok (value, n) => ⟨.content (value.mismatch expected), n.1.position⟩
    | .error e => e

/-- A scalar whose first character is one of some, or the fault that it is not. -/
def scalarAt (firsts : List Char) (expected : String) (c : Cursor) : Reading c Value :=
  let b := skipBlanks c
  match b.1.rest with
  | [] => Reading.failPeek b.1 .endOfValue
  | first :: _ =>
    if firsts.contains first then Reading.from' b (valueWith none b.1)
    else .error (mismatchAt expected b.1)

/-- The closing bracket of a list that may hold no more items. -/
def closeList {α : Type} (result : α) (c : Cursor) : Reading c α :=
  let b := skipBlanks c
  match b.1.rest with
  | [] => Reading.failPeek b.1 .endOfList
  | ']' :: _ => .ok (result, b.then b.1.next)
  | ',' :: _ =>
    let a := skipBlanks b.1.next.1
    match a.1.rest with
    | ']' :: _ => Reading.failPeek a.1 .trailingComma
    | _ => Reading.failPeek a.1 .trailingCharacters
  | _ => Reading.failPeek b.1 .trailingCharacters

/-- Go on at the next item of a list, or end with what there is at the closing bracket. -/
def nextItem {α : Type} (first : Bool) (result : α) (item : (n : Cursor) → Reading n α)
    (c : Cursor) : Reading c α :=
  let b := skipBlanks c
  match b.1.rest with
  | [] => Reading.failPeek b.1 .endOfList
  | ']' :: _ => .ok (result, b.then b.1.next)
  | next :: _ =>
    if first then Reading.from' b (item b.1)
    else if next = ',' then
      let a := skipBlanks b.1.next.1
      match a.1.rest with
      | [] => Reading.failPeek a.1 .endOfValue
      | ']' :: _ => Reading.failPeek a.1 .trailingComma
      | _ => Reading.from' (b.then (b.1.next.then a)) (item a.1)
    else Reading.failPeek b.1 .expectedCommaOrBracket

/-- The fault that a part was given before, noticed behind its key. -/
def duplicateAt (name : String) (c : Cursor) : SyntaxError :=
  let b := skipBlanks c
  let behind := match b.1.rest with
    | '\x7d' :: _ => b.1.next.1
    | _ => b.1
  ⟨.content (Form.duplicate name), behind.position⟩

mutual

/-- A value of a form, whose containers may be so deep. -/
def shapedAt (depth : Nat) : Form → (c : Cursor) → Reading c Value
  | .free, c => valueAt depth c
  | .text, c => scalarAt ['"'] Form.text.expected c
  | .flag, c => scalarAt ['t', 'f'] Form.flag.expected c
  | .optional form, c =>
    match (skipBlanks c).1.rest with
    | 'n' :: _ => valueWith none c
    | _ => shapedAt depth form c
  | .record name parts, c =>
    let b := skipBlanks c
    let n := b.1.next
    match b.1.rest with
    | [] => Reading.failPeek b.1 .endOfValue
    | '\x7b' :: _ =>
      Reading.from' (b.then n) (Reading.andThen (foldFields (partAt (depth - 1) parts) [] n.1)
        fun fields m => .ok (.object fields, m.stay))
    | '[' :: _ =>
      Reading.from' (b.then n) (Reading.andThen (partsAt (depth - 1) true parts [] n.1)
        fun fields m => .ok (.object fields, m.stay))
    | _ => .error (mismatchAt (Form.record name parts).expected b.1)
  | .table entry, c =>
    let b := skipBlanks c
    let n := b.1.next
    match b.1.rest with
    | [] => Reading.failPeek b.1 .endOfValue
    | '\x7b' :: _ =>
      Reading.from' (b.then n) (Reading.andThen
        (foldFields (freeField fun c => shapedAt (depth - 1) entry c) [] n.1)
        fun fields m => .ok (.object fields, m.stay))
    | _ => .error (mismatchAt (Form.table entry).expected b.1)

/-- A field of a record behind its key; a field that is no part is passed over. -/
def partAt (depth : Nat) :
    List (String × Form) → Fields → String → (c : Cursor) → Reading c Fields
  | [], fields, _, c =>
    Reading.andThen (colonAt c) fun _ n =>
      Reading.andThen (skipValue n) fun _ m => .ok (fields, m.stay)
  | (name, form) :: parts, fields, key, c =>
    if name = key then
      if fields.contains name then .error (duplicateAt name c)
      else
        Reading.andThen (colonAt c) fun _ n =>
          Reading.andThen (shapedAt depth form n) fun value m =>
            .ok (fields.insert name value, m.stay)
    else partAt depth parts fields key c

/-- The parts of a record from a list in their order. -/
def partsAt (depth : Nat) (first : Bool) :
    List (String × Form) → Fields → (c : Cursor) → Reading c Fields
  | [], fields, c => closeList fields c
  | (name, form) :: parts, fields, c =>
    nextItem first fields (fun n =>
      Reading.andThen (shapedAt depth form n) fun value m =>
        partsAt depth false parts (fields.insert name value) m) c

end

/-- Read a text that holds one value of a form. -/
def readShaped (form : Form) (text : String) : Except SyntaxError Value := do
  let (value, n) ← shapedAt maxDepth form (Cursor.start text)
  endAt n.1
  return value

end Reshape.Json
