import Reshape.Transform.Builtin

/-!
# Lookup tables

A table is looked up by the plain text of a value. A value without an entry, or whose entry is null,
is unknown, and the error names the target that the lookup was for.
-/
namespace Reshape

/-- The entry of a value in a table. -/
def lookUp (table : Fields) (target : String) (value : Value) : Except Error Value :=
  match table.get? value.plainText with
  | none | some .null => .error (.unknownLookupValue value.plainText target)
  | some entry => .ok entry

/-- A table as a transform, named for its target. -/
def Transform.lookup (target : String) (table : Fields) : Transform :=
  ⟨s!"lookup:{target}", lookUp table target⟩

/-- The same table, with unknown values reported against a target. -/
def Transform.forTarget (target : String) (table : Transform) : Transform where
  name := table.name
  call value := (table.call value).mapError fun
    | .unknownLookupValue text _ => .unknownLookupValue text target
    | other => other

/-- Named tables, with distinct names. -/
structure LookupTables where
  tables : List (String × Fields)
  deriving Repr

namespace LookupTables

def empty : LookupTables := ⟨[]⟩

/-- Store a table in a list of tables: in place of the one of its name, or at the end. -/
def store (name : String) (table : Fields) : List (String × Fields) → List (String × Fields)
  | [] => [(name, table)]
  | (other, old) :: rest =>
    if other = name then (name, table) :: rest else (other, old) :: store name table rest

/-- Add a table under a name, in place of an earlier one. -/
def add (tables : LookupTables) (name : String) (table : Fields) : LookupTables :=
  ⟨store name table tables.tables⟩

def size (tables : LookupTables) : Nat := tables.tables.length

def isEmpty (tables : LookupTables) : Bool := tables.tables.isEmpty

/-- The table of a name. -/
def table? (tables : LookupTables) (name : String) : Option Fields :=
  (tables.tables.find? fun entry => entry.1 == name).map (·.2)

/-- The table of a name as a transform, which takes its own name for the target. -/
def find? (tables : LookupTables) (name : String) : Option Transform :=
  (tables.table? name).map (Transform.lookup name)

def resolver (tables : LookupTables) : Resolver := .known tables.find?

end LookupTables
end Reshape
