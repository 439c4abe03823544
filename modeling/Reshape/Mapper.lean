import Reshape.Definition.Reader
import Reshape.Plan.Build
import Reshape.Plan.Output
import Reshape.Text.Quoted

/-!
# Mappers

A mapper holds its settings, its two resolvers and what its last successful compilation made. A
compilation that fails leaves the mapper as it was.
-/
namespace Reshape

/-- Plain settings. -/
structure Mapper.Config where
  /-- The label of the elements of nested arrays. -/
  origin : String
  /-- Kept but without effect: data are not checked against schemas. -/
  validate : Bool
  deriving DecidableEq, Repr

/-- What a compilation made, and of what. -/
structure Mapper.Compiled where
  definition : Definition
  inputSchema : Fragment
  outputSchema : Fragment
  plan : Level

structure Mapper where
  config : Mapper.Config
  functions : Resolver
  lookups : Resolver
  compiled : Option Mapper.Compiled

namespace Mapper

/-- The label and flag of a mapper for which none were given. -/
def Config.default : Config := ⟨"mapper", false⟩

def Config.toValue (config : Config) : Value :=
  .object [("origin", .text config.origin), ("validate", .bool config.validate)]

/-- A mapper with settings and resolvers that has compiled nothing yet. -/
def new (config : Config) (functions lookups : Resolver) : Mapper :=
  ⟨config, functions, lookups, none⟩

/-- A mapper without resolvers. -/
def ofConfig (config : Config) : Mapper := new config .unconfigured .unconfigured

/-- Build the plan of a definition and keep it with what it was built of. -/
def compileParsed (mapper : Mapper) (definition : Definition)
    (inputSchema outputSchema : Fragment) : Journal Event Error Mapper := do
  if mapper.config.validate then Journal.note .validationSkipped
  let scope : Scope := ⟨inputSchema, mapper.functions, mapper.lookups⟩
  let plan ← scope.build definition outputSchema
  Journal.note (.planCompiled plan.nodes.length plan.nodeCount)
  return { mapper with compiled := some ⟨definition, inputSchema, outputSchema, plan⟩ }

/-- Read a definition and two schemas, and compile them. -/
def compile (mapper : Mapper) (definition inputSchema outputSchema : Value) :
    Journal Event Error Mapper := do
  let definition ← Journal.lift (Definition.ofValue definition)
  let inputSchema ← Journal.lift (Fragment.ofValue "input schema" inputSchema)
  let outputSchema ← Journal.lift (Fragment.ofValue "output schema" outputSchema)
  mapper.compileParsed definition inputSchema outputSchema

/-- The plan of the last successful compilation. -/
def plan? (mapper : Mapper) : Option Level := mapper.compiled.map (·.plan)

/-- Apply the kept plan with the mapper's own origin. -/
def apply (mapper : Mapper) (data : Value) : Journal Event Error Value :=
  match mapper.plan? with
  | none => Journal.fail .compileRequired
  | some plan => plan.apply data mapper.config.origin

/-- A mapper in a line: its settings and whether it keeps a plan. -/
def description (mapper : Mapper) : String :=
  let config := "MapperConfig \x7b origin: " ++ Text.quoted mapper.config.origin ++
    s!", validate: {mapper.config.validate} " ++ "\x7d"
  "Mapper \x7b config: " ++ config ++ s!", compiled: {mapper.compiled.isSome}, .. " ++ "\x7d"

end Mapper
end Reshape
