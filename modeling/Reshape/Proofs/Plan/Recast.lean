import Reshape.Plan.Output

/-!
# Plans with other parts

A plan with every fragment and every transform exchanged by a function each: same levels, targets,
constants and source names. Fragments have no part in results, and of a transform only its call has,
so a plan makes the same of every input, note for note, when calls are kept. No statement is made here
about how plans are built.
-/
namespace Reshape

variable (f : Fragment → Fragment) (g : Transform → Transform)

/-- A source with its fragment exchanged. -/
def Binding.recast (source : Binding) : Binding := ⟨source.name, f source.fragment⟩

mutual

/-- A level with its fragments and transforms exchanged at every depth. -/
def Level.recast : Level → Level
  | .mk constants nodes => .mk constants (recastNodes nodes)

def recastNodes : List Node → List Node
  | [] => []
  | node :: rest => node.recast :: recastNodes rest

def Node.recast : Node → Node
  | .mk target fragment strategy => .mk target (f fragment) strategy.recast

def Strategy.recast : Strategy → Strategy
  | .copy source => .copy (source.recast f)
  | .lookup source transform => .lookup (source.recast f) (g transform)
  | .functionOfField source transform => .functionOfField (source.recast f) (g transform)
  | .functionOfInput transform => .functionOfInput (g transform)
  | .nestedObject level => .nestedObject level.recast
  | .nestedArray levels => .nestedArray (recastLevels levels)

def recastLevels : List Level → List Level
  | [] => []
  | level :: rest => level.recast :: recastLevels rest

end

/-- A plan less the fragments that it keeps. -/
def Level.withoutFragments (level : Level) : Level := level.recast (fun _ => .empty) id

/-- The call of a transform under an empty name. -/
def Transform.nameless (transform : Transform) : Transform := ⟨"", transform.call⟩

/-- A plan whose transforms have no names, only their calls. -/
def Level.withoutNames (level : Level) : Level := level.recast id Transform.nameless

variable {f g}

theorem Binding.read_recast (source : Binding) (input : Value) :
    (source.recast f).read input = source.read input := rfl

theorem Strategy.kind_recast (strategy : Strategy) :
    (strategy.recast f g).kind = strategy.kind := by
  cases strategy <;> rfl

theorem Node.target_recast (node : Node) : (node.recast f g).target = node.target := by
  cases node
  rfl

section Output

variable {input : Value} {origin : String}

mutual

/-- Exchanged parts make no difference to the output of a level, if calls are kept. -/
theorem Level.output_recast (keeps : ∀ transform, (g transform).call = transform.call) :
    ∀ level : Level, (level.recast f g).output input origin = level.output input origin
  | .mk constants nodes => by
    have hn := outputOfNodes_recast keeps nodes []
    rw [Level.recast, Level.output, Level.output, hn]

theorem outputOfNodes_recast (keeps : ∀ transform, (g transform).call = transform.call) :
    ∀ (nodes : List Node) (output : Fields),
      outputOfNodes input origin (recastNodes f g nodes) output =
        outputOfNodes input origin nodes output
  | [], _ => by rw [recastNodes]
  | node :: rest, output => by
    have hn := Node.result_recast keeps node
    have hr := outputOfNodes_recast keeps rest
    simp only [recastNodes, outputOfNodes, hn, hr, Node.target_recast]

theorem Node.result_recast (keeps : ∀ transform, (g transform).call = transform.call) :
    ∀ node : Node, (node.recast f g).result input origin = node.result input origin
  | .mk target fragment strategy => by
    have hs := Strategy.result_recast keeps target strategy
    rw [Node.recast, Node.result, Node.result, hs, Strategy.kind_recast]

theorem Strategy.result_recast (keeps : ∀ transform, (g transform).call = transform.call)
    (target : String) : ∀ strategy : Strategy,
      (strategy.recast f g).result input origin target = strategy.result input origin target
  | .copy source => by
    rw [Strategy.recast, Strategy.result, Strategy.result, Binding.read_recast]
  | .lookup source transform => by
    rw [Strategy.recast, Strategy.result, Strategy.result, Binding.read_recast, keeps]
  | .functionOfField source transform => by
    rw [Strategy.recast, Strategy.result, Strategy.result, Binding.read_recast, keeps]
  | .functionOfInput transform => by
    rw [Strategy.recast, Strategy.result, Strategy.result, keeps]
  | .nestedObject level => by
    have hl := Level.output_recast keeps level
    rw [Strategy.recast, Strategy.result, Strategy.result, hl]
  | .nestedArray levels => by
    have hl := elements_recast keeps target levels 0
    rw [Strategy.recast, Strategy.result, Strategy.result, hl]

theorem elements_recast (keeps : ∀ transform, (g transform).call = transform.call)
    (target : String) : ∀ (levels : List Level) (index : Nat),
      elements input origin target index (recastLevels f g levels) =
        elements input origin target index levels
  | [], _ => by rw [recastLevels]
  | level :: rest, index => by
    have hl := Level.output_recast keeps level
    have hr := elements_recast keeps target rest (index + 1)
    simp only [recastLevels, elements, hl, hr]

end

end Output

/-- Plans that are equal once their parts are exchanged make the same of every input, with one
journal, if calls are kept. -/
theorem apply_eq_of_recast_eq (keeps : ∀ transform, (g transform).call = transform.call)
    {plan plan' : Level} (h : plan.recast f g = plan'.recast f g) (input : Value)
    (origin : String) : plan.apply input origin = plan'.apply input origin := by
  have ho : plan.output input origin = plan'.output input origin := by
    rw [← Level.output_recast keeps plan, h, Level.output_recast keeps plan']
  rw [Level.apply, Level.apply, ho]

theorem apply_eq_of_withoutFragments_eq {plan plan' : Level}
    (h : plan.withoutFragments = plan'.withoutFragments) (input : Value) (origin : String) :
    plan.apply input origin = plan'.apply input origin :=
  apply_eq_of_recast_eq (fun transform => (rfl : (id transform).call = _)) h input origin

theorem apply_eq_of_withoutNames_eq {plan plan' : Level}
    (h : plan.withoutNames = plan'.withoutNames) (input : Value) (origin : String) :
    plan.apply input origin = plan'.apply input origin :=
  apply_eq_of_recast_eq (fun transform => (rfl : transform.nameless.call = _)) h input origin

end Reshape
