import Reshape.Proofs.Definition.Fault
import Reshape.Proofs.Definition.Grammar
import Reshape.Proofs.Plan.Calls
import Reshape.Proofs.Session
import Reshape.Proofs.Transform

/-!
# The phases of errors

Whatever is compiled and whatever data come, an error of a compilation belongs to the compilation and
an error on data to the application. The resolvers are registries of ordinary transforms or sets of
tables; with transforms that fail in other ways, an application can end in any error. A definition
that was read has no clash with a constant left for the building to find.
-/
namespace Reshape

open Outcome (FailsOnly)

variable {functions lookups : Resolver}

section Compiling

theorem Error.OfSchema.not_ofDefinition {e : Error} (h : e.OfSchema) : ¬ e.OfDefinition := by
  intro hd
  cases h <;> cases hd

theorem Definition.Denotes.not_clashes {value : Value} {definition : Definition} {e : Error}
    (h : Denotes value definition) : ¬ definition.Clashes e := by
  intro hc
  induction hc generalizing value with
  | here given constant =>
    cases h with
    | object _ each => exact (each.rule_of_mem given).1 constant
  | inside given part _ ih =>
    cases h with
    | object _ each =>
      obtain ⟨-, raw, -, hr⟩ := each.rule_of_mem given
      cases hr with
      | nested _ _ _ _ inner =>
        obtain ⟨_, hd⟩ := inner.denotes_of_mem part
        exact ih hd

/-- Of a definition that was read, building finds nothing wrong that reading could have found. -/
theorem Definition.Denotes.not_ofDefinition {value : Value} {definition : Definition}
    {scope : Scope} {output : Fragment} {e : Error} (hd : Denotes value definition)
    (h : Faults scope definition output e) : ¬ e.OfDefinition := by
  rcases h.cause with hs | hc
  · exact hs.not_ofDefinition
  · exact absurd hc hd.not_clashes

theorem Fragment.ofValue_phase (argument : String) (raw : Value) :
    FailsOnly (fun e => e.phase = .compile) (Fragment.ofValue argument raw) :=
  fun _ he => (Fragment.ofValue_eq_error.mp he).ofSchema.phase_eq

end Compiling

section Applying

/-- What building can yield with two resolvers. -/
def Built (functions lookups : Resolver) (plan : Level) : Prop :=
  ∃ input definition output,
    (Scope.build ⟨input, functions, lookups⟩ definition output).outcome = .ok plan

theorem MirrorsSpec.failsOnly {scope : Scope} (hf : scope.functions.Ordinary)
    (hl : scope.lookups.Ordinary) {key : String} {spec : Spec} {target : Fragment}
    {strategy : Strategy} (h : MirrorsSpec scope key spec target strategy) {transform : Transform}
    (ht : strategy.transform? = some transform) (value : Value) :
    FailsOnly Error.OfData (transform.call value) := by
  cases h with
  | copy _ => cases ht
  | lookup _ found =>
    cases ht
    cases found with
    | inline => exact Transform.lookup_failsOnly value _ _
    | named known =>
      exact Transform.forTarget_failsOnly value _ ((hl.find? known).failsOnly value)
  | functionOfField _ known =>
    cases ht
    exact (hf.find? known).failsOnly value
  | functionOfInput known =>
    cases ht
    exact (hf.find? known).failsOnly value
  | object _ _ => cases ht
  | array _ _ _ => cases ht

theorem Node.transform?_of_call? {node : Node} {input : Value} {call : Call}
    (h : node.call? input = some call) : node.strategy.transform? = some call.transform := by
  unfold Node.call? at h
  split at h <;> cases h <;> simp [Strategy.transform?, *]

/-- A plan fails only because of the data, as the transforms do that it calls. -/
theorem Built.failsOnly (hf : functions.Ordinary) (hl : lookups.Ordinary) {plan : Level}
    (h : Built functions lookups plan) (data : Value) (origin : String) :
    FailsOnly Error.OfData (plan.apply data origin).outcome := by
  intro e he
  obtain ⟨input, definition, output, hp⟩ := h
  rw [← Outcome.failure?_eq_some_iff, failure?_apply, firstFailure_eq_some_iff] at he
  obtain ⟨before, call, after, hc, -, hr⟩ := he
  have hm : call ∈ plan.calls data := hc ▸ List.mem_append_right before List.mem_cons_self
  obtain ⟨node, hn, hcall⟩ := List.mem_filterMap.mp hm
  obtain ⟨spec, hs⟩ := (build_eq_ok.mp hp).rule_of_mem hn
  exact hs.failsOnly hf hl (Node.transform?_of_call? hcall) call.argument e hr

end Applying

namespace Session

variable {session : Session}

/-- The phase in which a step can fail, if it can. -/
def Step.phase? : Step → Option Phase
  | .compile .. | .compileParts .. | .compileParsed .. => some .compile
  | .apply _ | .applyPlan .. => some .apply
  | _ => none

/-- The plan that is kept and those that were set aside were built with the session's resolvers. -/
structure Sound (functions lookups : Resolver) (session : Session) : Prop where
  functions_eq : session.mapper.functions = functions
  lookups_eq : session.mapper.lookups = lookups
  kept : ∀ plan, session.mapper.plan? = some plan → Built functions lookups plan
  aside : ∀ entry ∈ session.plans, Built functions lookups entry.2

theorem sound_start (config : Mapper.Config) :
    Sound functions lookups (start config functions lookups) where
  functions_eq := rfl
  lookups_eq := rfl
  kept := nofun
  aside := nofun

theorem Sound.step (h : Sound functions lookups session) (step : Step) :
    Sound functions lookups (session.step step).1 := by
  rcases step_cases session step with ⟨reply, hs, -⟩ | ⟨name, plan, -, hp, hs⟩ | ⟨kept, hk, hs⟩
  · rw [hs]
    exact h
  · rw [hs]
    refine { h with aside := fun entry hm => ?_ }
    rcases List.mem_cons.mp hm with rfl | hr
    · exact h.kept plan hp
    · exact h.aside entry hr
  · rw [hs]
    refine { h with kept := fun plan hp => ?_ }
    cases hp
    rw [h.functions_eq, h.lookups_eq] at hk
    exact ⟨_, _, _, hk.built⟩

theorem phase?_of_reading {step : Step}
    {reading : Except Error (Definition × Fragment × Fragment)} (h : step.reading? = some reading) :
    step.phase? = some .compile := by
  cases step <;> first | rfl | cases h

/-- What a compile step reads fails as reading does, whichever part is read first. -/
theorem reading_phase {step : Step} {reading : Except Error (Definition × Fragment × Fragment)}
    (h : step.reading? = some reading) : FailsOnly (fun e => e.phase = .compile) reading := by
  cases step with
  | compile definition inputSchema outputSchema =>
    cases h
    have hd : FailsOnly (fun e => e.phase = .compile) (Definition.ofValue definition) :=
      fun e he => (Definition.ofValue_failsOnly definition e he).phase_eq
    exact hd.bind fun _ => (Fragment.ofValue_phase _ inputSchema).bind fun _ =>
      (Fragment.ofValue_phase _ outputSchema).bind fun _ => .ok _
  | compileParts constants entries inputSchema outputSchema =>
    cases h
    have hd : FailsOnly (fun e => e.phase = .compile) (Definition.ofParts constants entries) :=
      fun e he => (Definition.ofParts_failsOnly constants entries e he).phase_eq
    exact (Fragment.ofValue_phase _ inputSchema).bind fun _ =>
      (Fragment.ofValue_phase _ outputSchema).bind fun _ => hd.bind fun _ => .ok _
  | compileParsed definition input output =>
    cases h
    exact .ok _
  | _ => cases h

theorem afterCompile_failed {result : Except Error Mapper} {e : Error}
    (h : (session.afterCompile result).2 = .failed e) : result = .error e := by
  cases result with
  | ok mapper => cases h
  | error e' => cases h; rfl

theorem replyOf_failed {result : Except Error Value} {e : Error} (h : replyOf result = .failed e) :
    result = .error e := by
  cases result with
  | ok value => cases h
  | error e' => cases h; rfl

/-- A step of a sound session fails only in the phase that it belongs to. -/
theorem Sound.phase_eq (hf : functions.Ordinary) (hl : lookups.Ordinary)
    (h : Sound functions lookups session) {step : Step} {e : Error}
    (he : (session.step step).2 = .failed e) : step.phase? = some e.phase := by
  -- A compile step fails in what it reads or in the building of it; of the others, only those that
  -- apply a plan can fail, and soundness says where the plan comes from.
  cases hr : step.reading? with
  | some reading =>
    rw [phase?_of_reading hr, Option.some.injEq, eq_comm]
    rw [step_of_reading hr] at he
    rcases Outcome.bind_eq_error.mp (afterCompile_failed he) with hread | ⟨read, -, hbuild⟩
    · exact reading_phase hr e hread
    · exact (Mapper.compileParsed_eq_error.mp hbuild).phase_eq
  | none =>
    cases step with
    | apply data =>
      rw [Session.step, Mapper.apply] at he
      cases hp : session.mapper.plan? with
      | none =>
        rw [hp] at he
        cases he
        rfl
      | some plan =>
        rw [hp] at he
        have hd := (h.kept plan hp).failsOnly hf hl data _ e (replyOf_failed he)
        rw [hd.phase_eq]
        rfl
    | applyPlan name data origin =>
      rw [Session.step] at he
      cases hp : session.plans.find? fun entry => entry.1 == name with
      | none => rw [hp] at he; cases he
      | some entry =>
        rw [hp] at he
        have hb := h.aside entry (List.mem_of_find?_eq_some hp)
        rw [(hb.failsOnly hf hl data origin e (replyOf_failed he)).phase_eq]
        rfl
    | keepPlan name =>
      rw [Session.step] at he
      cases hp : session.mapper.plan? <;> rw [hp] at he <;> cases he
    | compile _ _ _ => cases hr
    | compileParts _ _ _ _ => cases hr
    | compileParsed _ _ _ => cases hr
    | _ => cases he

theorem Sound.run (hf : functions.Ordinary) (hl : lookups.Ordinary) {steps : List Step}
    (h : Sound functions lookups session) :
    List.Forall₂ (fun step reply => ∀ e, reply = .failed e → step.phase? = some e.phase) steps
      (session.run steps).2 := by
  induction steps generalizing session with
  | nil => exact .nil
  | cons step steps ih =>
    rw [run_cons]
    exact .cons (fun e he => h.phase_eq hf hl he) (ih (h.step step))

/-- Errors keep to their phase. With registries of ordinary transforms and sets of tables, each step
of a run fails only with errors of its own phase. With any resolvers and schemas, a compilation fails
exactly with its fault: what reading the definition finds comes before all else, rejected schemas
and parts of schemas are invalid arguments, and of a definition that was read no compilation finds
what reading looks for. -/
theorem errors_keep_to_phase {config : Mapper.Config} (hf : functions.Ordinary)
    (hl : lookups.Ordinary) (steps : List Step) :
    List.Forall₂ (fun step reply => ∀ e, reply = .failed e → step.phase? = some e.phase) steps
      ((start config functions lookups).run steps).2 ∧
    (∀ (mapper : Mapper) (value inputSchema outputSchema : Value) (e : Error),
      ((mapper.compile value inputSchema outputSchema).outcome = .error e ↔
        mapper.Faults value inputSchema outputSchema e) ∧
      (Definition.ofValue value = .error e →
        (mapper.compile value inputSchema outputSchema).outcome = .error e)) ∧
    (∀ argument raw e, Fragment.Rejects argument raw e →
      ∃ message, e = .invalidArgument argument message) ∧
    ∀ (mapper : Mapper) (value : Value) (definition : Definition) (input output : Fragment)
      (e : Error), Definition.ofValue value = .ok definition →
        (mapper.compileParsed definition input output).outcome = .error e → ¬ e.OfDefinition := by
  refine ⟨(sound_start config).run hf hl, fun mapper value inputSchema outputSchema e => ?_,
    fun _ _ _ => Fragment.Rejects.eq_invalidArgument,
    fun mapper value definition input output e hd he => ?_⟩
  · rw [Mapper.compile_eq_error]
    exact ⟨Iff.rfl, .definition⟩
  · exact (Definition.ofValue_eq_ok.mp hd).not_ofDefinition (Mapper.compileParsed_eq_error.mp he)

section Stock

/-- The built-in transforms, and one that was supplied and always fails. -/
def stockFunctions : Registry :=
  Registry.builtins.register "refuse" fun _ => .error (.transform "refuse" "no")

def stockInput : Value := .object [("properties", .object [("number", .object [])])]

/-- An output schema with boxes, whose elements have these properties. -/
def stockOutput (properties : Value) : Value :=
  .object [("properties", .object [("boxes", .object
    [("type", "array"), ("items", .object [("properties", properties)])])])]

def boxesOf (rule : Fields) : Value :=
  .object [("boxes", .object [("$nested", .list [.object [("size", .object rule)]])])]

def stockRule : Fields := [("source", "number"), ("function", "length")]

def stockDefinition : Definition :=
  .level [] [("boxes", .nested (.many [.level [] [("size", .function "number" "length")]]))]

/-- The first definition lacks a rule, and the schemas with it are none; in the second compilation
the properties of the items are a number; the third one succeeds, but its function has no use for
the data. -/
def stockSteps : List Step :=
  [.compile (boxesOf []) "schema" .null,
    .compile (boxesOf stockRule) stockInput (stockOutput (.int 3)),
    .compile (boxesOf stockRule) stockInput (stockOutput (.object [("size", .object [])])),
    .apply (.object [("number", .int 7)])]

def stockReplies : List Reply :=
  [.failed (.noStrategy "size"),
    .failed (.invalidArgument "schema for `items`" "invalid type: integer `3`, expected a map"),
    .compiled 2, .failed (.transform "length" "7 has no length")]

theorem errors_keep_to_phase_stock :
    stockFunctions.resolver.Ordinary ∧ (LookupTables.resolver .empty).Ordinary ∧
    ((start ⟨"erp", false⟩ stockFunctions.resolver (LookupTables.resolver .empty)).run
      stockSteps).2 = stockReplies ∧
    List.Forall₂ (fun step reply => ∀ e, reply = .failed e → step.phase? = some e.phase) stockSteps
      stockReplies ∧
    ((Mapper.ofConfig ⟨"erp", true⟩).compile (boxesOf []) "schema" .null).outcome =
      .error (.noStrategy "size") ∧
    (∃ e, Fragment.Rejects "input schema" "schema" e ∧
      ∃ message, e = .invalidArgument "input schema" message) ∧
    ∃ e, ((Mapper.ofConfig ⟨"erp", true⟩).compileParsed stockDefinition .empty .empty).outcome =
      .error e ∧ ¬ e.OfDefinition := by
  have hf : stockFunctions.resolver.Ordinary := by
    refine .registry fun transform ht => ?_
    rcases Registry.mem_place ht with rfl | hb
    · exact .supplied fun _ => .error .transform
    · exact .builtin (Registry.mem_builtins hb)
  have hl : (LookupTables.resolver .empty).Ordinary := .tables
  have hr : ((start ⟨"erp", false⟩ stockFunctions.resolver (LookupTables.resolver .empty)).run
      stockSteps).2 = stockReplies := rfl
  obtain ⟨hphase, hcompile, hrejects, hread⟩ :=
    @errors_keep_to_phase _ _ ⟨"erp", false⟩ hf hl stockSteps
  rw [hr] at hphase
  have hj : Fragment.Rejects "input schema" "schema" _ := .shape nofun
  have hb : ((Mapper.ofConfig ⟨"erp", true⟩).compileParsed stockDefinition .empty .empty).outcome =
      .error (.targetUnresolved "boxes") := rfl
  exact ⟨hf, hl, hr, hphase, (hcompile _ _ _ _ _).2 rfl, ⟨_, hj, hrejects _ _ _ hj⟩,
    ⟨_, hb, hread _ (boxesOf stockRule) stockDefinition _ _ _ rfl hb⟩⟩

end Stock

end Session
end Reshape
