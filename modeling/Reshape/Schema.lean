import Reshape.Error
import Reshape.Value
import Reshape.Value.Found
import Reshape.Json.Writer

/-!
# Schema fragments

The parts of a schema that a mapping consults: the type tag, the properties of an object and the
items of an array. Tags, properties and items are kept raw and read only where a mapping needs them,
so a malformed fragment that is never consulted does no harm. Data are not checked against schemas.
-/
namespace Reshape

/-- One level of a declared shape. -/
structure Fragment where
  kind : Option Value
  properties : Fields
  items : Option Value
  deriving Repr, Inhabited

namespace Fragment

/-- A fragment that declares nothing. -/
def empty : Fragment := ⟨none, [], none⟩

/-- A keyword that counts only if it is there and not null. -/
def keyword (fields : Fields) (name : String) : Option Value :=
  (Fields.get? fields name).filter fun value => !value.isNull

/-- Read a fragment, on behalf of an argument that an error names. -/
def ofValue (argument : String) : Value → Except Error Fragment
  | .object fields =>
    match Fields.get? fields "properties" with
    | none => .ok ⟨keyword fields "type", [], keyword fields "items"⟩
    | some (.object properties) => .ok ⟨keyword fields "type", properties, keyword fields "items"⟩
    | some other => .error (.invalidArgument argument (other.mismatch "a map"))
  | other => .error (.invalidArgument argument s!"expected an object, found {other.kind}")

/-- The fragment as a value; what is absent or empty is left out. -/
def toValue (fragment : Fragment) : Value :=
  let kind := fragment.kind.toList.map fun kind => ("type", kind)
  let properties :=
    if fragment.properties.isEmpty then [] else [("properties", Value.object fragment.properties)]
  let items := fragment.items.toList.map fun items => ("items", items)
  .object (kind ++ properties ++ items)

/-- A declared property; none if it is not declared. -/
def property (fragment : Fragment) (name : String) : Except Error (Option Fragment) :=
  match fragment.properties.get? name with
  | none => .ok none
  | some value => (ofValue s!"schema for property `{name}`" value).map some

/-- The fragment of array elements: empty unless the items are a single object. -/
def itemsOrEmpty (fragment : Fragment) : Except Error Fragment :=
  match fragment.items with
  | some (.object fields) => ofValue "schema for `items`" (.object fields)
  | _ => .ok empty

/-- What a nested definition may target: an object, an array, or neither. -/
inductive Container where
  | object
  | array
  | other
  deriving DecidableEq, Repr

def container (fragment : Fragment) : Container :=
  match fragment.kind with
  | some (.text "object") => .object
  | some (.text "array") => .array
  | _ => .other

/-- The type tag in words; a tag that is not a text is shown as it was written. -/
def typeText (fragment : Fragment) : String :=
  match fragment.kind with
  | none | some .null => "<none>"
  | some (.text tag) => tag
  | some other => Json.compact other

end Fragment
end Reshape
