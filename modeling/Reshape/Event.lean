import Reshape.Plan

/-!
# What is noted along the way

The events that building and applying a plan note in their journals: a level of detail, a message
and named details for each.
-/
namespace Reshape

/-- How much detail a reader must ask for to see an event. -/
inductive Event.Detail where
  | trace
  | debug
  | info
  deriving DecidableEq, Repr

inductive Event where
  /-- A field of a definition was resolved, with all below it. -/
  | fieldCompiled (field : String) (kind : StrategyKind)
  /-- The entries of a nested array come next. -/
  | arrayEntered (field : String) (entries : Nat)
  /-- A name was asked of a resolver that was never configured. -/
  | resolverMissing (name : String)
  /-- A whole definition was resolved. -/
  | planCompiled (fields nodes : Nat)
  /-- Validation of data was asked for, which does not take place. -/
  | validationSkipped
  /-- A node comes next. -/
  | strategyApplied (field : String) (kind : StrategyKind)
  /-- A result was left out. -/
  | resultSuppressed (field : String)
  /-- A nested object had no fields. -/
  | objectSuppressed (field : String)
  /-- An element of a nested array had no fields. -/
  | elementDropped (field : String) (index : Nat)
  deriving DecidableEq, Repr

namespace Event

def Detail.word : Detail → String
  | .trace => "TRACE"
  | .debug => "DEBUG"
  | .info => "INFO"

def detail : Event → Detail
  | .arrayEntered .. | .strategyApplied .. | .resultSuppressed _ => .trace
  | .planCompiled .. => .info
  | _ => .debug

def message : Event → String
  | .fieldCompiled .. => "compiled field"
  | .arrayEntered .. => "compiling nested array"
  | .resolverMissing _ => "no resolver configured"
  | .planCompiled .. => "mapping compiled"
  | .validationSkipped => "validate flag set; data is not checked against schemas"
  | .strategyApplied .. => "applying strategy"
  | .resultSuppressed _ => "suppressed empty result"
  | .objectSuppressed _ => "nested object empty, suppressed"
  | .elementDropped .. => "nested array element empty, dropped"

/-- The details by name. -/
def details : Event → List (String × String)
  | .fieldCompiled field kind | .strategyApplied field kind =>
    [("field", field), ("strategy", kind.word)]
  | .arrayEntered field entries => [("field", field), ("entries", toString entries)]
  | .resolverMissing name => [("name", name)]
  | .planCompiled fields nodes => [("fields", toString fields), ("nodes", toString nodes)]
  | .validationSkipped => []
  | .resultSuppressed field | .objectSuppressed field => [("field", field)]
  | .elementDropped field index => [("field", field), ("index", toString index)]

end Event
end Reshape
