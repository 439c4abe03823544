import Reshape.Toml.Moment
import Reshape.Toml.Quoted
import Reshape.Toml.Table

/-!
# Keys and values of TOML

Readers of what stands on either side of an equals sign. A value is told by its first character.
Arrays may take several lines and may end with a comma; tables in braces stand on one line.
-/
namespace Reshape.Toml

/-- Characters of a key without quotes. -/
def isKeyChar (c : Char) : Bool := c.isAlphanum || c = '_' || c = '-'

/-- A key between dots. -/
def keyAt (p : Place) : Except Refusal (Key × Place) := do
  let (name, behind) ←
    match p.head? with
    | some '"' => quotedAt ⟨true, false⟩ p
    | some '\'' => quotedAt ⟨false, false⟩ p
    | _ =>
      let (name, behind) := p.split isKeyChar
      if name.isEmpty then p.refuse none else .ok (String.ofList name, behind)
  return (⟨name, p.upTo behind⟩, behind)

/-- Keys behind a first one, with dots in front of them. What stands behind a dot that no key
follows is left with the dot. -/
def moreKeys : Nat → Place → Except Refusal (List Key × Place)
  | 0, p => .ok ([], p)
  | turns + 1, p =>
    if p.head? = some '.' then do
      let (key?, behind) ← optional p (keyAt (p.skip 1).skipBlanks)
      match key? with
      | none => return ([], p)
      | some key =>
        let (keys, behind) ← moreKeys turns behind.skipBlanks
        return (key :: keys, behind)
    else .ok ([], p)

/-- How many keys a path may have, and how many containers may lie within each other. -/
def maxDepth : Nat := 79

/-- Keys with dots between them: the last one, and the path to it. -/
def pathAt (p : Place) : Except Refusal ((List Key × Key) × Place) := do
  let (first, behind) ← within .key (keyAt p.skipBlanks)
  let (others, behind) ← within .key (moreKeys behind.rest.length behind.skipBlanks)
  if maxDepth < others.length + 1 then p.refuse none [] (some .recursionLimit)
  else
    match others.getLast? with
    | none => return (([], first), behind)
    | some last => return ((first :: others.dropLast, last), behind)

/-- A key, an equals sign and a value. Behind a key nothing else may stand. -/
def pairAt (value : Place → Except Refusal (Item × Place)) (p : Place) :
    Except Refusal ((List Key × Key × Item) × Place) := do
  let ((path, key), behind) ← pathAt p
  final do
    let behind ← behind.expect "=" none [.text ".", .text "="]
    let (item, behind) ← value behind.skipBlanks
    return ((path, key, item), behind)

/-- Parts behind a first one, with commas in front of them. What stands behind a comma that no part
follows is left with the comma. -/
def moreParts {α : Type} (part : Place → Except Refusal (α × Place)) :
    Nat → Place → Except Refusal (List α × Place)
  | 0, p => .ok ([], p)
  | turns + 1, p =>
    if p.head? = some ',' then do
      let (a?, behind) ← optional p (part (p.skip 1))
      match a? with
      | none => return ([], p)
      | some a =>
        let (parts, behind) ← moreParts part turns behind
        return (a :: parts, behind)
    else .ok ([], p)

/-- Parts with commas between them; none if no first part is there. -/
def partsAt {α : Type} (part : Place → Except Refusal (α × Place)) (p : Place) :
    Except Refusal (List α × Place) := do
  let (first?, behind) ← optional p (part p)
  match first? with
  | none => return ([], p)
  | some first =>
    let (others, behind) ← moreParts part behind.rest.length behind
    return (first :: others, behind)

/-- Pass blanks, line breaks and comments. -/
def skipLines (p : Place) : Except Refusal Place := p.skipLines (p.rest.length + 1)

/-- The items of an array behind its bracket. -/
def arrayAt (value : Place → Except Refusal (Item × Place)) (p : Place) :
    Except Refusal (List Item × Place) := final do
  let item := fun p => do
    let (item, behind) ← value (← skipLines p)
    return (item, ← skipLines behind)
  let (items, behind) ← if p.head? = some ']' then .ok ([], p) else partsAt item p
  let hasComma := !items.isEmpty && behind.head? = some ','
  let behind ← skipLines (if hasComma then behind.skip 1 else behind)
  return (items, ← behind.expect "]" (some .array) [.text "]"])

/-- The entries of a table in braces behind the brace. -/
def bracesAt (value : Place → Except Refusal (Item × Place)) (p : Place) :
    Except Refusal (Entries × Place) := final do
  let pair := fun p => do
    let (given, behind) ← pairAt value p
    return (given, behind.skipBlanks)
  let (pairs, behind) ← partsAt pair p
  match Entries.ofPairs [] pairs with
  | .error cause => p.refuse none [] (some cause)
  | .ok entries =>
    return (entries,
      ← behind.skipBlanks.expect "\x7d" (some .inlineTable) [.text "\x7d"])

/-- A number, a date or a time. -/
def numberAt (p : Place) : Except Refusal (Datum × Place) :=
  let datum := fun {α : Type} (make : α → Datum) (read : Place → Except Refusal (α × Place)) => do
    let (a, behind) ← read p
    return (make a, behind)
  orElse (datum .moment momentAt) fun _ =>
    orElse (datum .fractional floatAt) fun _ => datum .int integerAt

/-- Refuse what may have been meant as a text. -/
def refuseWord {α : Type} (p : Place) : Except Refusal α :=
  p.refuse (some .string) [.text "\"", .text "'"]

/-- A word for a single value. -/
def wordAt (word : String) (datum : Datum) (p : Place) : Except Refusal (Datum × Place) :=
  if p.startsWith word then .ok (datum, p.skip word.length) else refuseWord p

/-- A single value. -/
def datumAt (p : Place) : Except Refusal (Datum × Place) :=
  match Quoting.at? p with
  | some quoting => do
    let (text, behind) ← quotedAt quoting p
    return (.text text, behind)
  | none =>
    match p.head? with
    | none => p.refuse none
    | some c =>
      if c = '+' || c = '-' || c.isDigit then numberAt p
      else if c = '_' then wanting [.leadingDigit] (p.refuse (some .integer))
      else if c = '.' then wanting [.leadingDigit] (p.refuse (some .float))
      else if c = 't' then final (wordAt "true" (.bool true) p)
      else if c = 'f' then final (wordAt "false" (.bool false) p)
      else if c = 'i' then wordAt "inf" (.fractional (.infinite false)) p
      else if c = 'n' then wordAt "nan" (.fractional .notANumber) p
      else refuseWord p

/-- A value that may hold so many containers within each other. -/
def valueAt : Nat → Place → Except Refusal (Item × Place)
  | depth, p => do
    let tooDeep := fun {α : Type} (_ : Unit) =>
      (final (p.refuse none [] (some .recursionLimit)) : Except Refusal α)
    match p.head?, depth with
    | some '[', 0 | some '\x7b', 0 => tooDeep ()
    | some '[', depth + 1 =>
      let (items, behind) ← arrayAt (valueAt depth) (p.skip 1)
      return (.array (p.upTo behind) items, behind)
    | some '\x7b', depth + 1 =>
      let (entries, behind) ← bracesAt (valueAt depth) (p.skip 1)
      return (.table (.braces (p.upTo behind)) entries, behind)
    | _, _ =>
      let (datum, behind) ← datumAt p
      return (.single (p.upTo behind) datum, behind)

end Reshape.Toml
