import Reshape.Failure
import Reshape.Report.Writer
import Reshape.Settings
import Reshape.Transform.Registry

/-!
# Commands

There are two commands. One compiles a definition and applies the plan to the documents of data
files; the other compiles it and shows the tree of the plan. Both are given the documents as a
function from paths, and keep a journal of what they write, which breaks off at the first failure.
-/
namespace Reshape

/-- Where the definition of a mapping and its schemas are. -/
structure MappingPaths where
  definition : String
  inputSchema : String
  outputSchema : String
  deriving DecidableEq, Repr

inductive Command where
  | apply (paths : MappingPaths) (origin : Option String) (data : List String)
  | check (paths : MappingPaths)
  deriving DecidableEq, Repr

/-- The document at a path, or why there is none. -/
abbrev Documents := String → Except Failure Value

/-- What is written, in order. -/
abbrev Written := Journal String Failure

namespace Command

/-- Load the definition and its schemas, and compile them. Functions are the built-in ones, tables
are those of the settings. -/
def compile (documents : Documents) (settings : Settings) (origin : Option String)
    (paths : MappingPaths) : Except Failure Mapper := do
  let definition ← documents paths.definition
  let inputSchema ← documents paths.inputSchema
  let outputSchema ← documents paths.outputSchema
  let mapper := Mapper.new (settings.mapperConfig origin) Registry.builtins.resolver
    settings.lookups.resolver
  (mapper.compile definition inputSchema outputSchema).outcome.mapError Failure.mapping

/-- Map the records of a list, the first of which has this index. -/
def mapRecords (mapper : Mapper) (path : String) (index : Nat) :
    List Value → Except Failure (List Value)
  | [] => .ok []
  | record :: rest => do
    let mapped ← (mapper.apply record).outcome.mapError (Failure.record path index)
    return mapped :: (← mapRecords mapper path (index + 1) rest)

/-- Map a document: a list record by record, anything else as one record. -/
def mapDocument (mapper : Mapper) (path : String) : Value → Except Failure Value
  | .list records => return .list (← mapRecords mapper path 0 records)
  | record => (mapper.apply record).outcome.mapError Failure.mapping

/-- How many records a mapped document holds. -/
def recordCount : Value → Nat
  | .list records => records.length
  | _ => 1

/-- Map data files and write what comes out, each under its path. Counts the records. -/
def mapFiles (documents : Documents) (mapper : Mapper) (writer : Report.Writer) :
    List String → Written Nat
  | [] => pure 0
  | path :: rest => do
    let document ← Journal.lift (documents path)
    let mapped ← Journal.lift (mapDocument mapper path document)
    Journal.note (writer.title path)
    Journal.note (writer.data mapped)
    return recordCount mapped + (← mapFiles documents mapper writer rest)

/-- Run a command. -/
def run (documents : Documents) (settings : Settings) (writer : Report.Writer) :
    Command → Written Unit
  | .apply paths origin data => do
    Journal.note (writer.info s!"Compiling {paths.definition}")
    let mapper ← Journal.lift (compile documents settings origin paths)
    let records ← mapFiles documents mapper writer data
    Journal.note (writer.success s!"✓ Mapped {records} record(s) from {data.length} file(s)")
  | .check paths => do
    Journal.note (writer.info s!"Checking {paths.definition}")
    let mapper ← Journal.lift (compile documents settings none paths)
    match mapper.plan? with
    | none => Journal.fail (.other "compile succeeded without a plan")
    | some plan => do
      Journal.note (writer.success s!"✓ Definition is valid ({plan.nodeCount} node(s))")
      Journal.note (writer.title "Strategy tree")
      Journal.note (writer.tree plan)

end Command
end Reshape
