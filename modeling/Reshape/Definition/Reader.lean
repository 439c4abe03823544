import Reshape.Definition
import Reshape.Error

/-!
# Reading a definition

The checks that need no schema: shapes, keys that exclude each other, a field without any rule, a
constant that is also a field. Fields are checked in order and the first fault ends the reading. A
key whose value is null counts as absent, and keys that mean nothing here are passed over.
-/
namespace Reshape.Definition

/-- The value of a key that is there and not null. -/
def present (fields : Fields) (name : String) : Option Value :=
  (fields.get? name).filter fun value => !value.isNull

/-- A part of a field's rule that is a text, if present. -/
def textPart (key : String) (fields : Fields) (name : String) : Except Error (Option String) :=
  match present fields name with
  | none => .ok none
  | some (.text s) => .ok (some s)
  | some other => .error (.invalidFieldSpec key s!"`{name}` must be a string, found {other.kind}")

/-- The constants of a level. -/
def constantsOf (fields : Fields) : Except Error Fields :=
  match fields.get? constantKey with
  | none | some .null => .ok []
  | some (.object constants) => .ok constants
  | some other =>
    .error (.invalidFieldSpec constantKey s!"expected an object, found {other.kind}")

/-- The table of a lookup. -/
def tableOf (key : String) : Value → Except Error TableRef
  | .text name => .ok (.named name)
  | .object table => .ok (.inline table)
  | other =>
    .error (.invalidFieldSpec key s!"`lookup` must be an object or a name, found {other.kind}")

/-- The rule of a field that has no nested body. -/
def plainSpec (key : String) (source function : Option String) (lookup : Option Value) :
    Except Error Spec :=
  match lookup, source, function with
  | some _, none, _ => .error (.lookupWithoutSource key)
  | some _, some _, some _ =>
    .error (.incompatibleStrategies key "lookup cannot be combined with function")
  | some table, some source, none => (tableOf key table).map (.lookup source)
  | none, source, some function => .ok (.function source function)
  | none, some source, none => .ok (.copy source)
  | none, none, none => .error (.noStrategy key)

mutual

/-- Read a definition. -/
def ofValue : Value → Except Error Definition
  | .object fields => do
    let constants ← constantsOf fields
    return .level constants (← ofFields constants fields)
  | other => .error (.invalidArgument "definition" s!"expected an object, found {other.kind}")

/-- The fields of a level, in order; a field may not be a constant as well. -/
def ofFields (constants : Fields) : List (String × Value) → Except Error (List (String × Spec))
  | [] => .ok []
  | (key, value) :: rest =>
    if key = constantKey then ofFields constants rest
    else if constants.contains key then .error (.duplicateField key)
    else do
      let spec ← specOf key value
      return (key, spec) :: (← ofFields constants rest)

/-- The rule of a field. -/
def specOf (key : String) : Value → Except Error Spec
  | .object fields => do
    let source ← textPart key fields "source"
    let function ← textPart key fields "function"
    let lookup := present fields "lookup"
    if (present fields nestedKey).isNone then plainSpec key source function lookup
    else if source.isSome || function.isSome || lookup.isSome then
      .error (.incompatibleStrategies key
        "`$nested` cannot be combined with source, lookup or function")
    else nestedIn key fields
  | other => .error (.invalidFieldSpec key s!"expected an object, found {other.kind}")

/-- The nested body among the parts of a field's rule. -/
def nestedIn (key : String) : List (String × Value) → Except Error Spec
  | [] => .error (.noStrategy key)
  | (name, value) :: rest => if name = nestedKey then nestedOf key value else nestedIn key rest

/-- A nested body. -/
def nestedOf (key : String) : Value → Except Error Spec
  | .list items => do return .nested (.many (← ofItems items))
  | .object fields => do
    let constants ← constantsOf fields
    return .nested (.single (.level constants (← ofFields constants fields)))
  | other =>
    .error (.invalidFieldSpec key s!"`$nested` must be an object or an array, found {other.kind}")

/-- A list of definitions. -/
def ofItems : List Value → Except Error (List Definition)
  | [] => .ok []
  | item :: rest => do
    let definition ← ofValue item
    return definition :: (← ofItems rest)

end

/-- A definition put together by hand: constants, and the value of each rule. Its keys may recur and
may be constants. -/
def ofParts (constants : Fields) (entries : List (String × Value)) : Except Error Definition := do
  let fields ← entries.mapM fun entry => do return (entry.1, ← specOf entry.1 entry.2)
  return .level constants fields

end Reshape.Definition
