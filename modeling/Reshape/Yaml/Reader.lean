import Reshape.Form
import Reshape.Yaml.Node

/-!
# Reading YAML by a form

Reads the only document of a text by a form, in the order of the text, so that the first fault is
the one reported: the text is malformed, or something in it is not what the form asks for. The
latter is reported with the path to it and its mark. Where nothing is written a record or a table is
empty.

A reference is read as the node it means, each time anew. How many are followed is bounded by the
length of the document, and how deep containers lie is bounded too; so reading ends also where a
node refers to itself. What nobody asks for is not followed into.
-/
namespace Reshape.Yaml

open Text (Mark)

/-- What a plain scalar is, for a reader who expected something else. -/
def Scalar.found : Scalar → String
  | .null => "unit value"
  | .bool b => (Value.bool b).found
  | .int n => (Value.int n).found
  | .wideInt n =>
    let type := if n < 0 then "i128" else "u128"
    s!"integer `{n}` as {type}"
  | .float x => s!"floating point `{x.text .described}`"
  | .notFinite spelling =>
    let name := if (Scalar.notANumber).contains spelling then "NaN" else "inf"
    let sign := if spelling.startsWith "-" then "-" else ""
    s!"floating point `{sign}{name}`"
  | .text s => (Value.text s).found

/-- A text is not what its tag says. -/
def notTagged (text expected : String) : String :=
  s!"invalid value: {(Value.text text).found}, expected {expected}"

/-- What a scalar stands for. The tag of a common kind of data decides for any style; without one,
or with a tag that is only known to a program, a plain scalar is what it looks like. All else is
text. -/
def Scalar.ofTagged (tag : Option Tag) (text : String) (style : ScalarStyle) :
    Except String Scalar :=
  let orFault := fun (read : Option Scalar) (expected : String) =>
    match read with
    | some scalar => Except.ok scalar
    | none => .error (notTagged text expected)
  if tag = some (Tag.core "bool") then orFault ((Scalar.bool? text).map .bool) "a boolean"
  else if tag = some (Tag.core "int") then orFault (Scalar.int? text) "an integer"
  else if tag = some (Tag.core "float") then orFault (Scalar.float? text) "a float"
  else if tag = some (Tag.core "null") then
    orFault (if Scalar.nullWords.contains text then some .null else none) "null"
  else if style = .plain && tag.all Tag.isMarked then .ok (Scalar.ofText text)
  else .ok (.text text)

/-- Where in a tree something is; none at its root. -/
abbrev Path := Option String

/-- The path to an item. -/
def Path.item (path : Path) (index : Nat) : Path := some (path.getD "." ++ s!"[{index}]")

/-- The path to a field. -/
def Path.field (path : Path) (key : String) : Path :=
  some (match path with
    | none => key
    | some parent => s!"{parent}.{key}")

inductive Fault where
  | malformed (e : SyntaxError)
  /-- A character that may not occur, so many bytes from the begin of the text. -/
  | forbidden (offset : Nat)
  /-- Something is not what was expected, without its place. -/
  | unplaced (message : String)
  /-- What stands at a path and a mark is not what was expected. -/
  | content (path : Path) (mark : Mark) (message : String)
  /-- Containers lie too deep, from the one at a mark on. -/
  | recursionLimit (mark : Mark)
  | repetitionLimit
  | manyDocuments
  deriving Repr

namespace Fault

def message : Fault → String
  | .malformed e => e.message
  | .forbidden offset =>
    "control characters are not allowed" ++ (if offset = 0 then "" else s!" at position {offset}")
  | .unplaced message => message
  | .content path mark message =>
    (match path with
      | none => ""
      | some path => s!"{path}: ") ++ message ++ placeText mark
  | .recursionLimit mark => "recursion limit exceeded" ++ placeText mark
  | .repetitionLimit => "repetition limit exceeded"
  | .manyDocuments =>
    "deserializing from YAML containing more than one document is not supported"

/-- The fault at a place, unless it has one. -/
def place (path : Path) (mark : Mark) : Fault → Fault
  | .unplaced message => .content path mark message
  | other => other

end Fault

/-- A step of a walk through a document: how many references were followed, before and after. -/
abbrev Walk := StateT Nat (Except Fault)

/-- Report the faults of a step at a place, unless they have one. -/
def Walk.placed {α : Type} (path : Path) (mark : Mark) (walk : Walk α) : Walk α := fun followed =>
  (walk followed).mapError (Fault.place path mark)

/-- What references mean, and how many may be followed. -/
structure References where
  anchors : List (Nat × Node)
  limit : Nat

namespace References

/-- The references of a tree. For each step of a walk through it a hundred may be followed. -/
def ofRoot (root : Node) : References :=
  let steps := match root.steps 0 with
    | .ok n | .error n => n
  ⟨Node.anchors [] root, 100 * steps⟩

/-- The node itself, or the one it refers to. -/
def follow (references : References) (node : Node) : Walk Node :=
  match node.unnamed with
  | .reference number => fun followed =>
    if references.limit < followed + 1 then .error .repetitionLimit
    else
      match references.anchors.lookup number with
      | some found => .ok (found.unnamed, followed + 1)
      | none => .error .repetitionLimit
  | other => pure other

end References

namespace Node

mutual

/-- The first fault in a tree. -/
def check : Node → Except Fault Unit
  | .named _ node => check node
  | .sequence _ _ items => checkItems items
  | .mapping _ _ pairs => checkPairs pairs
  | .broken e => .error (.malformed e)
  | _ => .ok ()

def checkItems : List Node → Except Fault Unit
  | [] => .ok ()
  | item :: rest => do
    check item
    checkItems rest

def checkPairs : List (Node × Node) → Except Fault Unit
  | [] => .ok ()
  | (key, value) :: rest => do
    check key
    check value
    checkPairs rest

end

/-- A node stands where something else should. -/
def mismatch (path : Path) (expected : String) : Node → Fault
  | .scalar mark tag text style =>
    match Scalar.ofTagged tag text style with
    | .ok what => .content path mark s!"invalid type: {what.found}, expected {expected}"
    | .error message => .content path mark message
  | .sequence mark _ _ => .content path mark ((Value.list []).mismatch expected)
  | .mapping mark _ _ => .content path mark ((Value.object []).mismatch expected)
  | .broken e => .malformed e
  | .named .. | .reference .. => .repetitionLimit

/-- The text of a scalar. -/
def readText (references : References) (path : Path) (expected : String) (node : Node) :
    Walk String := do
  match ← references.follow node with
  | .scalar _ _ text _ => return text
  | other => throw (other.mismatch path expected)

/-- The path to the value of a key. The key is not named if it is a reference. -/
def pathBehind (path : Path) (key : Node) : Path :=
  path.field (match key.unnamed with
    | .scalar _ _ text _ => text
    | _ => "?")

/-- The items of a sequence from a place on, each read with its path. -/
def readItems (read : Path → Node → Walk Value) (path : Path) (index : Nat) :
    List Node → Walk (List Value)
  | [] => return []
  | item :: rest => do
    let value ← read (path.item index) item
    return value :: (← readItems read path (index + 1) rest)

/-- The fields that some pairs give, each read by a function of the fields before it. A field that
comes again keeps its place. -/
def readPairs (references : References) (path : Path) (expectedKey : String)
    (read : Fields → String → Path → Node → Walk (Option Value)) :
    Fields → List (Node × Node) → Walk Fields
  | fields, [] => return fields
  | fields, (key, node) :: rest => do
    let name ← key.readText references path expectedKey
    match ← read fields name (pathBehind path key) node with
    | some value => readPairs references path expectedKey read (fields.insert name value) rest
    | none => readPairs references path expectedKey read fields rest

/-- The value of a scalar. -/
def scalarValue (tag : Option Tag) (text : String) (style : ScalarStyle) : Except String Value := do
  match ← Scalar.ofTagged tag text style with
  | .null | .notFinite _ => return .null
  | .bool b => return .bool b
  | .int n => return .int n
  | .float x => return .number (.float x)
  | .text s => return .text s
  | .wideInt _ => throw "JSON number out of range"

/-- A tag that is only known to a program asks for more than a value. -/
def checkTag (tag : Option Tag) : Except String Unit :=
  if tag.any fun tag => tag.isMarked && tag.isText then
    .error "invalid type: enum, expected any valid JSON value"
  else .ok ()

/-- Any value, whose containers hold what `inner` reads; without it no container may be there. -/
def valueWith (references : References) (inner : Option (Path → Node → Walk Value)) (path : Path)
    (node : Node) : Walk Value := do
  let orPlaced := fun {α : Type} (mark : Mark) (result : Except String α) =>
    (liftM (result.mapError (Fault.content path mark)) : Walk α)
  match ← references.follow node with
  | .scalar mark tag text style =>
    orPlaced mark (checkTag tag)
    orPlaced mark (scalarValue tag text style)
  | .sequence mark tag items =>
    orPlaced mark (checkTag tag)
    match inner with
    | none => throw (.recursionLimit mark)
    | some read => return .list (← readItems read path 0 items)
  | .mapping mark tag pairs =>
    orPlaced mark (checkTag tag)
    match inner with
    | none => throw (.recursionLimit mark)
    | some read =>
      return .object (← readPairs references path "a string key"
        (fun _ _ path node => some <$> read path node) [] pairs)
  | other => throw (other.mismatch path "any value")

/-- Any value that may hold so many containers within each other. -/
def valueAt (references : References) : Nat → Path → Node → Walk Value
  | 0 => valueWith references none
  | depth + 1 => valueWith references (some (valueAt references depth))

/-- Is nothing written here? -/
def isAbsent : Node → Bool
  | .scalar _ _ text style => text.isEmpty && style = .plain
  | _ => false

/-- The truth value of a scalar that is plain, or literal with a tag that says so. -/
def flag? : Node → Option Bool
  | .scalar _ tag text style =>
    if style = .plain || (style = .literal && tag = some (Tag.core "bool")) then Scalar.bool? text
    else none
  | _ => none

/-- Does a node stand for null? Only a plain scalar does, and a tag must agree. -/
def isNull : Node → Except Fault Bool
  | .scalar _ tag text style =>
    let word := Scalar.nullWords.contains text
    if style ≠ .plain then .ok false
    else if tag = some (Tag.core "null") then
      if word then .ok true else .error (.unplaced (notTagged text "null"))
    else .ok (tag.isNone && (text.isEmpty || word))
  | _ => .ok false

/-- The pairs of a mapping that is read as a record or a table at a depth, with its mark. -/
def openMapping (depth : Nat) (path : Path) (expected : String) (node : Node) :
    Except Fault (Mark × List (Node × Node)) :=
  match node with
  | .mapping mark _ pairs => if depth = 0 then .error (.recursionLimit mark) else .ok (mark, pairs)
  | other => if other.isAbsent then .ok (.start, []) else .error (other.mismatch path expected)

mutual

/-- A value of a form, whose containers may lie so deep. -/
def readAs (references : References) (depth : Nat) (path : Path) : Form → Node → Walk Value
  | .free, node => valueAt references depth path node
  | .text, node => return .text (← node.readText references path Form.text.expected)
  | .flag, node => do
    let node ← references.follow node
    match node.flag? with
    | some b => return .bool b
    | none => throw (node.mismatch path Form.flag.expected)
  | .optional form, node => do
    let node ← references.follow node
    if ← node.isNull then return .null else readAs references depth path form node
  | .record name parts, node => do
    let (mark, pairs) ←
      (← references.follow node).openMapping depth path (Form.record name parts).expected
    let part := fun given key path value => do
      if Fields.contains given key then throw (.unplaced (Form.duplicate key))
      readPart references (depth - 1) parts key path value
    return .object (← Walk.placed path mark
      (readPairs references path "field identifier" part [] pairs))
  | .table entry, node => do
    let (_, pairs) ←
      (← references.follow node).openMapping depth path (Form.table entry).expected
    let value := fun _ _ path value => some <$> readAs references (depth - 1) path entry value
    return .object (← readPairs references path Form.text.expected value [] pairs)

/-- The value of a part; none if the record has no such part. -/
def readPart (references : References) (depth : Nat) :
    List (String × Form) → String → Path → Node → Walk (Option Value)
  | [], _, _, node => do
    node.check
    return none
  | (name, form) :: parts, key, path, node =>
    if name = key then return some (← readAs references depth path form node)
    else readPart references depth parts key path node

end
end Node

/-- How deep containers may lie. -/
def maxDepth : Nat := 128

/-- The mark that a text may begin with. -/
def byteOrderMark : Char := '\uFEFF'

/-- The offset of the first character that may not occur. -/
def firstForbidden? (offset : Nat) : List Char → Option Nat
  | [] => none
  | c :: rest =>
    if isAllowed c then firstForbidden? (offset + c.utf8Size) rest else some offset

/-- Read the only document of a text by a form. -/
def read (form : Form) (text : String) : Except Fault Value := do
  match firstForbidden? 0 text.toList with
  | some offset => throw (.forbidden offset)
  | none =>
    let unmarked := if text.toList.head? = some byteOrderMark then text.toList.drop 1
      else text.toList
    let document := Document.ofText (String.ofList unmarked)
    let references := References.ofRoot document.root
    let (value, _) ← (document.root.readAs references maxDepth none form).run 0
    match document.fault with
    | some e => throw (.malformed e)
    | none => if document.more then throw .manyDocuments else return value

end Reshape.Yaml
