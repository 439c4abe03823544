import Reshape.Toml.Numeral

/-!
# Tables of TOML

What a text in TOML says: a tree of tables and arrays whose leaves are single values, each with the
part of the text that gives it. A key is given once, and a table is opened once: by a header, by
braces, or bit by bit by keys with dots. A table that lies on the way to another table's header may
be opened later by a header of its own.
-/
namespace Reshape.Toml

/-- A single value. -/
inductive Datum where
  | text (s : String)
  | int (n : Int)
  | fractional (x : Fractional)
  | bool (b : Bool)
  /-- A date, a time or both. -/
  | moment (text : String)
  deriving DecidableEq, Repr

/-- How a table came to be. -/
inductive Origin where
  /-- By a header: the part of the text that it and its keys take. -/
  | header (span : Span)
  /-- On the way to the table of a header. -/
  | passed
  /-- On the way to a key with dots. -/
  | dotted
  /-- In braces, which take a part of the text. -/
  | braces (span : Span)
  deriving DecidableEq, Repr

/-- The part of the text that a table takes, if it stands in one place. -/
def Origin.span? : Origin → Option Span
  | .header span | .braces span => some span
  | .passed | .dotted => none

/-- The name of an entry, and where it stands. -/
structure Key where
  name : String
  span : Span
  deriving DecidableEq, Repr

inductive Item where
  | single (span : Span) (datum : Datum)
  | array (span : Span) (items : List Item)
  | table (origin : Origin) (entries : List (Key × Item))
  /-- The tables that headers in double brackets opened one after the other. -/
  | rows (tables : List Item)

/-- Entries of a table in their order, with distinct keys. -/
abbrev Entries := List (Key × Item)

namespace Item

/-- The part of the text that gives an item, if there is one. -/
def span? : Item → Option Span
  | .single span _ | .array span _ => some span
  | .table origin _ => origin.span?
  | .rows tables => do
    let first ← tables.head?.bind tableSpan?
    let last ← tables.getLast?.bind tableSpan?
    return ⟨first.start, last.stop⟩
where
  /-- The part of the text that a table takes. -/
  tableSpan? : Item → Option Span
    | .table origin _ => origin.span?
    | _ => none

/-- What kind of value an item is. -/
def kind : Item → String
  | .single _ (.text _) => "string"
  | .single _ (.int _) => "integer"
  | .single _ (.fractional _) => "float"
  | .single _ (.bool _) => "boolean"
  | .single _ (.moment _) => "datetime"
  | .array .. | .rows _ => "array"
  | .table (.braces _) _ => "inline table"
  | .table .. => "table"

end Item

/-- What a path is followed for: to open the table of a header, to give a value to a key with dots
below a header, or to give one within braces. -/
inductive Route where
  | header
  | dotted
  | braces
  deriving DecidableEq, Repr

namespace Entries

def get? (entries : Entries) (name : String) : Option Item :=
  (entries.find? fun entry => entry.1.name == name).map (·.2)

/-- Give a key its item: in its place if it has one, else at the end. -/
def set (entries : Entries) (key : Key) (item : Item) : Entries :=
  match entries with
  | [] => [(key, item)]
  | (other, old) :: rest =>
    if other.name = key.name then (other, item) :: rest else (other, old) :: set rest key item

def erase (entries : Entries) (name : String) : Entries :=
  entries.filter fun entry => entry.1.name != name

/-- Give a value to a key that has none. Through tables that are not made by dots no key with dots
leads. -/
def give (isDotted : Bool) (key : Key) (item : Item) (table : Option (List String))
    (origin : Origin) (entries : Entries) : Except Cause Entries :=
  if isDotted && origin ≠ .dotted then .error (.duplicate key.name)
  else if (entries.get? key.name).isSome then
    .error (match table with
      | some path => .duplicateIn key.name path
      | none => .duplicate key.name)
  else .ok (entries ++ [(key, item)])

end Entries

/-- An item that a path leads through, changed at the end of the path. `above` is the path to it. -/
def Item.through (route : Route) (above : List String) (name : String)
    (inner : Origin → Entries → Except Cause (Entries × Entries)) :
    Item → Except Cause (Item × Entries)
  | .table origin entries =>
    match route, origin with
    | .header, .braces _ | .dotted, .braces _ =>
      .error (.notTable (above ++ [name]) "inline table")
    | .dotted, .header _ | .braces, .braces _ => .error (.duplicate name)
    | _, _ => do
      let (entries, taken) ← inner origin entries
      return (.table origin entries, taken)
  | .rows tables =>
    match tables.getLast? with
    | some (.table origin entries) => do
      let (entries, taken) ← inner origin entries
      return (.rows (tables.dropLast ++ [.table origin entries]), taken)
    | _ => .error (.duplicate name)
  | other => .error (.notTable (above ++ [name]) other.kind)

/-- Change the entries of the table at the end of a path below a table; with the change come entries
that it takes away. Where the path leads nowhere tables are made. -/
def Entries.alter (route : Route) (change : Origin → Entries → Except Cause (Entries × Entries))
    (above : List String) :
    List Key → Origin → Entries → Except Cause (Entries × Entries)
  | [], origin, entries => change origin entries
  | key :: path, _, entries => do
    let made : Item := .table (if route = .header then .passed else .dotted) []
    let (item, taken) ← ((entries.get? key.name).getD made).through route above key.name
      (alter route change (above ++ [key.name]) path)
    return (entries.set key item, taken)

/-- The table that lines add to: where its header stands, its path and its entries. -/
structure Current where
  path : List Key
  span : Span
  /-- Is it one of the tables of an array? -/
  isRow : Bool
  entries : Entries

/-- What the lines so far say: the tables whose headers were followed by others, and the table that
lines add to. That table is put in its place when it ends. -/
structure Document where
  root : Entries
  current : Current

namespace Document

def empty : Document := ⟨[], ⟨[], ⟨0, 0⟩, false, []⟩⟩

/-- The key at the end of a path, and the path to it. -/
def splitPath : List Key → Option (List Key × Key)
  | [] => none
  | path@(_ :: _) => path.getLast?.map (path.dropLast, ·)

/-- A header names a table that is there. Its key is shown as it would be written. -/
def duplicateHeader (path : List Key) (key : Key) : Cause :=
  .duplicateIn (shownKey key.name) (path.map (·.name))
where
  /-- A key as it is written, in quotes where they are needed. -/
  shownKey (name : String) : String :=
    let isBare := fun c : Char => c.isAlphanum || c = '_' || c = '-'
    if !name.isEmpty && name.toList.all isBare then name
    else "\"" ++ String.join (name.toList.map shownChar) ++ "\""
  /-- A character between quotes. -/
  shownChar (c : Char) : String :=
    match c with
    | '\x08' => "\\b"
    | '\t' => "\\t"
    | '\n' => "\\n"
    | '\x0c' => "\\f"
    | '\r' => "\\r"
    | '"' => "\\\""
    | '\\' => "\\\\"
    | _ =>
      if c.toNat < 0x20 || c = '\x7f' then
        let digits := (Nat.toDigits 16 c.toNat).map Char.toUpper
        "\\u" ++ String.ofList (List.replicate (4 - digits.length) '0' ++ digits)
      else c.toString

/-- Put the table that lines added to in its place. -/
def finish (document : Document) : Except Cause Entries :=
  let current := document.current
  let table : Item := .table (.header current.span) current.entries
  match splitPath current.path with
  | none => .ok current.entries
  | some (path, key) => do
    let place := fun _ (entries : Entries) =>
      match entries.get? key.name, current.isRow with
      | none, false | some (.table .passed _), false | some (.table .dotted _), false =>
        .ok (entries.set key table, [])
      | none, true => .ok (entries.set key (.rows [table]), [])
      | some (.rows tables), true => .ok (entries.set key (.rows (tables ++ [table])), [])
      | _, _ => .error (duplicateHeader path key)
    return (← Entries.alter .header place [] path .passed document.root).1

/-- Open the table of a header. What was put into it on the way to others stays in it. -/
def openTable (document : Document) (path : List Key) (key : Key) (span : Span) :
    Except Cause Document := do
  let take := fun _ (entries : Entries) =>
    match entries.get? key.name with
    | none => .ok (entries, [])
    | some (.table .passed inner) => .ok (entries.erase key.name, inner)
    | some _ => .error (duplicateHeader path key)
  let (root, entries) ← Entries.alter .header take [] path .passed (← document.finish)
  return ⟨root, ⟨path ++ [key], span, false, entries⟩⟩

/-- Open one more table of an array. -/
def openRow (document : Document) (path : List Key) (key : Key) (span : Span) :
    Except Cause Document := do
  let reserve := fun _ (entries : Entries) =>
    match entries.get? key.name with
    | none => .ok (entries.set key (.rows []), [])
    | some (.rows _) => .ok (entries, [])
    | some _ => .error (duplicateHeader path key)
  let (root, _) ← Entries.alter .header reserve [] path .passed (← document.finish)
  return ⟨root, ⟨path ++ [key], span, true, []⟩⟩

/-- Give a key a value in the table that lines add to. -/
def give (document : Document) (path : List Key) (key : Key) (item : Item) :
    Except Cause Document := do
  let current := document.current
  let stop := (item.span?.map (·.stop)).getD current.span.stop
  let place := fun origin (entries : Entries) => do
    let table := current.path.map (·.name)
    return (← entries.give (!path.isEmpty) key item (some table) origin, [])
  let (entries, _) ← Entries.alter .dotted place [] path .passed current.entries
  return { document with
    current := { current with entries, span := ⟨current.span.start, stop⟩ } }

end Document

/-- The entries of a table in braces, given its keys with their values in order. -/
def Entries.ofPairs : Entries → List (List Key × Key × Item) → Except Cause Entries
  | entries, [] => .ok entries
  | entries, (path, key, item) :: rest => do
    let place := fun origin (entries : Entries) => do
      return (← entries.give (!path.isEmpty) key item none origin, [])
    let (entries, _) ← Entries.alter .braces place [] path .passed entries
    ofPairs entries rest

end Reshape.Toml
