import Reshape.Toml.Content

/-!
# Statements of TOML

A text is a list of statements, each on lines of its own: the header of a table, or a key with its
value. Blanks, comments and empty lines stand between them.
-/
namespace Reshape.Toml

inductive Statement where
  /-- A header in single or double brackets, and the part of the text it takes. -/
  | header (isRow : Bool) (span : Span) (path : List Key) (key : Key)
  | entry (path : List Key) (key : Key) (item : Item)

namespace Statement

/-- A header at its bracket. -/
def headerAt (p : Place) : Except Refusal (Statement × Place) := within .tableHeader do
  if p.rest.length = 1 then p.refuse none
  else
    let isRow := p.startsWith "[["
    let close := if isRow then "]]" else "]"
    let ((path, key), behind) ← pathAt (p.skip close.length)
    let closed ← behind.expect close none [.text ".", .text close]
    let after ← closed.endStatement
    return (.header isRow (p.upTo closed) path key, after)

/-- A key with its value. -/
def entryAt (p : Place) : Except Refusal (Statement × Place) := do
  let ((path, key, item), behind) ← pairAt (valueAt maxDepth) p
  return (.entry path key item, ← behind.endStatement)

/-- What a statement changes in a document. -/
def apply (document : Document) : Statement → Except Cause Document
  | .header false span path key => document.openTable path key span
  | .header true span path key => document.openRow path key span
  | .entry path key item => document.give path key item

end Statement

namespace Document

/-- The document with a statement, which a reader reads at a place, and the place behind it. A fault
of the statement as a whole stands at its begin. -/
def addAt (document : Document) (p : Place) (part : Option Part)
    (read : Place → Except Refusal (Statement × Place)) : Except Refusal (Document × Place) := do
  let (statement, behind) ← read p
  match statement.apply document with
  | .ok document => return (document, behind)
  | .error cause => p.refuse part [] (some cause)

/-- The document that the statements from a place on add to. Each turn passes a character. -/
def readFrom : Nat → Document → Place → Except Refusal Document
  | 0, document, _ => .ok document
  | turns + 1, document, p => do
    let p := p.skipBlanks
    match p.head? with
    | none => return document
    | some '#' =>
      match p.skipComment.endLine? with
      | some behind => readFrom turns document behind
      | none => p.skipComment.refuse none
    | some '[' =>
      let (document, behind) ← document.addAt p (some .tableHeader) Statement.headerAt
      readFrom turns document behind
    | some '\n' | some '\r' =>
      match p.afterNewline? with
      | some behind => readFrom turns document behind
      | none => p.refuse none
    | some _ =>
      let (document, behind) ← document.addAt p none Statement.entryAt
      readFrom turns document behind

/-- The entries that a text gives. It may begin with a byte order mark. -/
def ofText (text : String) : Except Fault Entries :=
  let start := Place.start text
  let begin_ := if start.head? = some '\uFEFF' then start.skip 1 else start
  let result := do
    let document ← readFrom (begin_.rest.length + 1) empty begin_
    match document.finish with
    | .ok entries => .ok entries
    | .error cause => begin_.refuse none [] (some cause)
  result.mapError Refusal.fault

end Document
end Reshape.Toml
