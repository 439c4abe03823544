import Reshape.Mapper

/-!
# Sessions with a mapper

A session is a mapper and the plans that were set aside under names. Its steps compile, apply, set a
plan aside, apply a plan that was set aside and look at what the mapper keeps. Each step has a
reply; a step that fails leaves the session as it was.
-/
namespace Reshape

structure Session where
  mapper : Mapper
  /-- Plans set aside, the latest first. -/
  plans : List (String × Level)

namespace Session

/-- A rule for each of some fields of a definition put together by hand. -/
abbrev Entries := List (String × Value)

inductive Step where
  | settings
  | compile (definition inputSchema outputSchema : Value)
  | compileParts (constants : Fields) (entries : Entries) (inputSchema outputSchema : Value)
  | compileParsed (definition : Definition) (inputSchema outputSchema : Fragment)
  | apply (data : Value)
  /-- Set the kept plan aside under a name. -/
  | keepPlan (name : String)
  | applyPlan (name : String) (data : Value) (origin : String)
  | describe
  | inspect
  | node (target : String)

inductive Reply where
  | settings (config : Mapper.Config)
  | compiled (nodes : Nat)
  | output (value : Value)
  /-- Was there a plan to set aside? -/
  | kept (found : Bool)
  | unknownPlan
  | description (text : String)
  | compiledState (state : Option Mapper.Compiled)
  | node (node : Option Node)
  | failed (error : Error)

/-- The session and the reply after a compilation. -/
def afterCompile (session : Session) : Except Error Mapper → Session × Reply
  | .ok mapper =>
    ({ session with mapper }, .compiled ((mapper.plan?.map Level.nodeCount).getD 0))
  | .error e => (session, .failed e)

/-- Compile a definition put together by hand; the schemas are read first. -/
def compileParts (mapper : Mapper) (constants : Fields) (entries : Entries)
    (inputSchema outputSchema : Value) : Except Error Mapper := do
  let input ← Fragment.ofValue "input schema" inputSchema
  let output ← Fragment.ofValue "output schema" outputSchema
  let definition ← Definition.ofParts constants entries
  (mapper.compileParsed definition input output).outcome

/-- The reply of a plan to data. -/
def replyOf : Except Error Value → Reply
  | .ok value => .output value
  | .error e => .failed e

def step (session : Session) : Step → Session × Reply
  | .settings => (session, .settings session.mapper.config)
  | .compile definition input output =>
    session.afterCompile (session.mapper.compile definition input output).outcome
  | .compileParts constants entries input output =>
    session.afterCompile (compileParts session.mapper constants entries input output)
  | .compileParsed definition input output =>
    session.afterCompile (session.mapper.compileParsed definition input output).outcome
  | .apply data => (session, replyOf (session.mapper.apply data).outcome)
  | .keepPlan name =>
    match session.mapper.plan? with
    | some plan => ({ session with plans := (name, plan) :: session.plans }, .kept true)
    | none => (session, .kept false)
  | .applyPlan name data origin =>
    match session.plans.find? fun entry => entry.1 == name with
    | some (_, plan) => (session, replyOf (plan.apply data origin).outcome)
    | none => (session, .unknownPlan)
  | .describe => (session, .description session.mapper.description)
  | .inspect => (session, .compiledState session.mapper.compiled)
  | .node target => (session, .node (session.mapper.plan?.bind fun plan => plan.node? target))

/-- The session and the replies after some steps. -/
def run (session : Session) : List Step → Session × List Reply
  | [] => (session, [])
  | step :: steps =>
    let (next, reply) := session.step step
    let (final, replies) := next.run steps
    (final, reply :: replies)

end Session
end Reshape
