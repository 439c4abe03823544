import Reshape.Proofs.Mapper
import Reshape.Session

/-!
# What a session keeps

The state that a mapper keeps after any steps: nothing as long as no compilation has succeeded, and
afterwards what the latest successful one made, whole. A step that fails changes nothing, and a plan
that was set aside stays what it was. Success is what the reply to a step says; which failure a
compilation ends with is not stated here.
-/
namespace Reshape.Session

/-- A new mapper, and no plans set aside. -/
def start (config : Mapper.Config) (functions lookups : Resolver) : Session :=
  ⟨Mapper.new config functions lookups, []⟩

/-- Does a reply tell of a compilation that succeeded? -/
def Reply.isCompiled : Reply → Bool
  | .compiled _ => true
  | _ => false

/-- What a compile step reads from what it was given: a definition, the fragment of the input and
that of the output. Other steps read nothing. -/
def Step.reading? : Step → Option (Except Error (Definition × Fragment × Fragment))
  | .compile definition inputSchema outputSchema => some do
    let definition ← Definition.ofValue definition
    let input ← Fragment.ofValue "input schema" inputSchema
    let output ← Fragment.ofValue "output schema" outputSchema
    return (definition, input, output)
  | .compileParts constants entries inputSchema outputSchema => some do
    let input ← Fragment.ofValue "input schema" inputSchema
    let output ← Fragment.ofValue "output schema" outputSchema
    let definition ← Definition.ofParts constants entries
    return (definition, input, output)
  | .compileParsed definition input output => some (.ok (definition, input, output))
  | _ => none

/-- A compile step reads the definition and both schemas that are kept, and what is built of exactly
these with the two resolvers is the plan that is kept. -/
structure Makes (functions lookups : Resolver) (step : Step) (kept : Mapper.Compiled) : Prop where
  read : step.reading? = some (.ok (kept.definition, kept.inputSchema, kept.outputSchema))
  built : (Scope.build ⟨kept.inputSchema, functions, lookups⟩ kept.definition
    kept.outputSchema).outcome = .ok kept.plan

/-- The plan that was set aside last under a name. -/
def plan? (session : Session) (name : String) : Option (String × Level) :=
  session.plans.find? fun entry => entry.1 == name

variable {session : Session}

theorem run_cons (step : Step) (steps : List Step) :
    session.run (step :: steps) =
      (((session.step step).1.run steps).1,
        (session.step step).2 :: ((session.step step).1.run steps).2) := rfl

theorem run_append (steps later : List Step) :
    session.run (steps ++ later) =
      (((session.run steps).1.run later).1,
        (session.run steps).2 ++ ((session.run steps).1.run later).2) := by
  induction steps generalizing session with
  | nil => rfl
  | cons step steps ih => rw [List.cons_append, run_cons, run_cons, ih, List.cons_append]

section Step

/-- A compile step compiles what it reads. -/
theorem step_of_reading {step : Step} {reading : Except Error (Definition × Fragment × Fragment)}
    (h : step.reading? = some reading) :
    session.step step = session.afterCompile
      (reading >>= fun read => (session.mapper.compileParsed read.1 read.2.1 read.2.2).outcome) := by
  cases step with
  | compile definition inputSchema outputSchema =>
    cases h
    simp only [Session.step, Mapper.compile, Journal.outcome_bind, Journal.outcome_lift, bind_assoc,
      pure_bind]
  | compileParts constants entries inputSchema outputSchema =>
    cases h
    simp only [Session.step, Session.compileParts, bind_assoc, pure_bind]
  | compileParsed definition input output =>
    cases h
    rfl
  | _ => cases h

theorem isCompiled_replyOf (result : Except Error Value) :
    (replyOf result).isCompiled = false := by
  cases result <;> rfl

/-- All that a step can do: nothing but reply, set the kept plan aside, or keep what it makes. -/
theorem step_cases (session : Session) (step : Step) :
    (∃ reply, session.step step = (session, reply) ∧ reply.isCompiled = false) ∨
    (∃ name plan, step = .keepPlan name ∧ session.mapper.plan? = some plan ∧
      session.step step = ({ session with plans := (name, plan) :: session.plans }, .kept true)) ∨
    ∃ kept, Makes session.mapper.functions session.mapper.lookups step kept ∧
      session.step step =
        ({ session with mapper := { session.mapper with compiled := some kept } },
          .compiled kept.plan.nodeCount) := by
  cases hr : step.reading? with
  | some reading =>
    have hs : session.step step = session.afterCompile _ := step_of_reading hr
    cases reading with
    | error e => exact Or.inl ⟨.failed e, hs, rfl⟩
    | ok read =>
      obtain ⟨definition, input, output⟩ := read
      rw [Outcome.ok_bind, Mapper.outcome_compileParsed] at hs
      cases hb : (Scope.build ⟨input, session.mapper.functions, session.mapper.lookups⟩ definition
          output).outcome with
      | error e =>
        rw [hb] at hs
        exact Or.inl ⟨.failed e, hs, rfl⟩
      | ok plan =>
        rw [hb] at hs
        exact Or.inr (Or.inr ⟨⟨definition, input, output, plan⟩, ⟨hr, hb⟩, hs⟩)
  | none =>
    cases step with
    | compile definition inputSchema outputSchema => cases hr
    | compileParts constants entries inputSchema outputSchema => cases hr
    | compileParsed definition input output => cases hr
    | apply data => exact Or.inl ⟨_, rfl, isCompiled_replyOf _⟩
    | keepPlan name =>
      rw [Session.step]
      cases session.mapper.plan? with
      | none => exact Or.inl ⟨_, rfl, rfl⟩
      | some plan => exact Or.inr (Or.inl ⟨name, plan, rfl, rfl, rfl⟩)
    | applyPlan name data origin =>
      rw [Session.step]
      cases session.plans.find? fun entry => entry.1 == name with
      | none => exact Or.inl ⟨_, rfl, rfl⟩
      | some entry => exact Or.inl ⟨_, rfl, isCompiled_replyOf _⟩
    | _ => exact Or.inl ⟨_, rfl, rfl⟩

/-- A compile step succeeds exactly when there is something for it to make. -/
theorem isCompiled_step_iff (session : Session) (step : Step) :
    (session.step step).2.isCompiled = true ↔
      ∃ kept, Makes session.mapper.functions session.mapper.lookups step kept := by
  constructor
  · intro h
    rcases step_cases session step with ⟨reply, hs, hc⟩ | ⟨name, plan, -, -, hs⟩ | ⟨kept, hk, -⟩
    · rw [hs, hc] at h
      cases h
    · rw [hs] at h
      cases h
    · exact ⟨kept, hk⟩
  · rintro ⟨kept, hk⟩
    have hs : session.step step = session.afterCompile _ := step_of_reading hk.read
    rw [Outcome.ok_bind, Mapper.outcome_compileParsed, hk.built] at hs
    rw [hs]
    rfl

theorem step_of_failed {step : Step} {e : Error} (h : (session.step step).2 = .failed e) :
    (session.step step).1 = session := by
  rcases step_cases session step with ⟨reply, hs, -⟩ | ⟨name, plan, -, -, hs⟩ | ⟨kept, -, hs⟩
  · rw [hs]
  · rw [hs] at h
    cases h
  · rw [hs] at h
    cases h

/-- Data are given to the kept plan with the mapper's own origin, and this changes nothing. -/
theorem step_apply (session : Session) (data : Value) :
    session.step (.apply data) = (session,
      match session.mapper.compiled with
      | none => .failed .compileRequired
      | some kept => replyOf (kept.plan.apply data session.mapper.config.origin).outcome) := by
  rw [Session.step, Mapper.apply, Mapper.plan?]
  cases session.mapper.compiled <;> rfl

theorem step_applyPlan {name : String} {plan : Level} (h : session.plan? name = some (name, plan))
    (data : Value) (origin : String) :
    session.step (.applyPlan name data origin) =
      (session, replyOf (plan.apply data origin).outcome) := by
  rw [plan?] at h
  rw [Session.step, h]

theorem plan?_keepPlan {kept : Mapper.Compiled} (h : session.mapper.compiled = some kept)
    (name : String) : (session.step (.keepPlan name)).1.plan? name = some (name, kept.plan) := by
  rw [Session.step, Mapper.plan?, h, Option.map_some, plan?, List.find?_cons, beq_self_eq_true]

/-- A plan that was set aside stays, as long as no other one is set aside under its name. -/
theorem plan?_step {step : Step} {name : String} (h : step ≠ .keepPlan name) :
    (session.step step).1.plan? name = session.plan? name := by
  rcases step_cases session step with ⟨reply, hs, -⟩ | ⟨other, plan, ho, -, hs⟩ | ⟨kept, -, hs⟩
  · rw [hs]
  · have hn : (other == name) = false := beq_false_of_ne fun he => h (he ▸ ho)
    rw [hs, plan?, List.find?_cons, hn, plan?]
  · rw [hs, plan?, plan?]

end Step

section Run

/-- Of the steps of a run, one made what is kept, its reply tells so, and no later reply tells of
another compilation. -/
def Latest (session : Session) (steps : List Step) (kept : Mapper.Compiled) : Prop :=
  ∃ before step after, steps = before ++ step :: after ∧
    Makes session.mapper.functions session.mapper.lookups step kept ∧
    ((session.run before).1.step step).2.isCompiled = true ∧
    ∀ reply ∈ (((session.run before).1.step step).1.run after).2, reply.isCompiled = false

/-- Without a successful compilation a run has no part in what the mapper keeps; else the mapper keeps
what the latest one made. Nothing else of the mapper changes. -/
theorem run_cases (session : Session) (steps : List Step) :
    ((∀ reply ∈ (session.run steps).2, reply.isCompiled = false) ∧
      (session.run steps).1.mapper = session.mapper) ∨
    ∃ kept, session.Latest steps kept ∧
      (session.run steps).1.mapper = { session.mapper with compiled := some kept } := by
  induction steps generalizing session with
  | nil => exact Or.inl ⟨List.forall_mem_nil _, rfl⟩
  | cons step steps ih =>
    -- Of the first step two things matter: what it leaves the mapper with, and whether it compiled.
    have hstep : ((session.step step).2.isCompiled = false ∧
          (session.step step).1.mapper = session.mapper) ∨
        ∃ kept, Makes session.mapper.functions session.mapper.lookups step kept ∧
          (session.step step).2.isCompiled = true ∧
          (session.step step).1.mapper = { session.mapper with compiled := some kept } := by
      rcases step_cases session step with ⟨reply, hs, hc⟩ | ⟨name, plan, -, -, hs⟩ | ⟨kept, hk, hs⟩
      · rw [hs]
        exact Or.inl ⟨hc, rfl⟩
      · rw [hs]
        exact Or.inl ⟨rfl, rfl⟩
      · rw [hs]
        exact Or.inr ⟨kept, hk, rfl, rfl⟩
    simp only [run_cons]
    rcases ih (session.step step).1 with ⟨hnone, hrest⟩ | ⟨kept, hlatest, hrest⟩
    · rcases hstep with ⟨hc, hm⟩ | ⟨kept, hk, hc, hm⟩
      · exact Or.inl ⟨List.forall_mem_cons.mpr ⟨hc, hnone⟩, hrest.trans hm⟩
      · exact Or.inr ⟨kept, ⟨[], step, steps, rfl, hk, hc, hnone⟩, hrest.trans hm⟩
    · obtain ⟨before, latest, after, rfl, hk, hc, hnone⟩ := hlatest
      have hm : ∃ compiled, (session.step step).1.mapper =
          { session.mapper with compiled := compiled } := by
        rcases hstep with ⟨-, hm⟩ | ⟨first, -, -, hm⟩
        · exact ⟨session.mapper.compiled, hm⟩
        · exact ⟨some first, hm⟩
      obtain ⟨compiled, hm⟩ := hm
      rw [hm] at hk hrest
      exact Or.inr ⟨kept, ⟨step :: before, latest, after, rfl, hk, hc, hnone⟩, hrest⟩

theorem plan?_run {steps : List Step} {name : String} (h : ∀ step ∈ steps, step ≠ .keepPlan name) :
    (session.run steps).1.plan? name = session.plan? name := by
  induction steps generalizing session with
  | nil => rfl
  | cons step steps ih =>
    obtain ⟨head, tail⟩ := List.forall_mem_cons.mp h
    rw [run_cons, ih tail, plan?_step head]

theorem Latest.exists_reply {steps : List Step} {kept : Mapper.Compiled}
    (h : session.Latest steps kept) :
    ∃ reply ∈ (session.run steps).2, reply.isCompiled = true := by
  obtain ⟨before, step, after, rfl, -, hc, -⟩ := h
  refine ⟨((session.run before).1.step step).2, ?_, hc⟩
  rw [run_append, run_cons]
  exact List.mem_append_right _ List.mem_cons_self

/-- After any steps a mapper keeps nothing exactly if no compilation has succeeded, and otherwise what
the latest one read and the plan that is built of this. From then on a step that fails changes
nothing; a step compiles exactly if it has something to make; data are given to the kept plan with the
configured origin, without any change; and a plan that is set aside makes the same of all data after
any further steps, unless another one is set aside under its name. -/
theorem run_keeps_latest {config : Mapper.Config} {functions lookups : Resolver}
    {steps : List Step} {final : Session} {replies : List Reply}
    (h : (start config functions lookups).run steps = (final, replies)) :
    (final.mapper.compiled = none ↔ ∀ reply ∈ replies, reply.isCompiled = false) ∧
    (∀ kept, final.mapper.compiled = some kept →
      (start config functions lookups).Latest steps kept) ∧
    (∀ step e, (final.step step).2 = .failed e → (final.step step).1 = final) ∧
    (∀ step, (final.step step).2.isCompiled = true ↔ ∃ kept, Makes functions lookups step kept) ∧
    (∀ data, final.step (.apply data) = (final,
      match final.mapper.compiled with
      | none => .failed .compileRequired
      | some kept => replyOf (kept.plan.apply data config.origin).outcome)) ∧
    ∀ name kept later, final.mapper.compiled = some kept →
      (∀ step ∈ later, step ≠ .keepPlan name) → ∀ data origin,
        (((final.step (.keepPlan name)).1.run later).1.step (.applyPlan name data origin)).2 =
          replyOf (kept.plan.apply data origin).outcome := by
  have hf : ((start config functions lookups).run steps).1 = final := congrArg Prod.fst h
  have hr : ((start config functions lookups).run steps).2 = replies := congrArg Prod.snd h
  have hrun := run_cases (start config functions lookups) steps
  rw [hf, hr] at hrun
  have hm : ∃ compiled, final.mapper = ⟨config, functions, lookups, compiled⟩ := by
    rcases hrun with ⟨-, hm⟩ | ⟨kept, -, hm⟩
    · exact ⟨none, hm⟩
    · exact ⟨some kept, hm⟩
  obtain ⟨compiled, hm⟩ := hm
  refine ⟨⟨fun hn => ?_, fun hnone => ?_⟩, fun kept hk => ?_, fun _ _ => step_of_failed,
    fun step => ?_, fun data => ?_, fun name kept later hk hl data origin => ?_⟩
  · rcases hrun with ⟨hnone, -⟩ | ⟨kept, -, hk⟩
    · exact hnone
    · rw [hk] at hn
      cases hn
  · rcases hrun with ⟨-, hk⟩ | ⟨kept, hlatest, -⟩
    · rw [hk]
      rfl
    · obtain ⟨reply, hmem, hc⟩ := hlatest.exists_reply
      rw [hr] at hmem
      rw [hnone reply hmem] at hc
      cases hc
  · rcases hrun with ⟨-, hs⟩ | ⟨latest, hlatest, hs⟩
    · rw [hs] at hk
      cases hk
    · rw [hs] at hk
      cases hk
      exact hlatest
  · rw [isCompiled_step_iff, hm]
  · rw [step_apply, hm]
  · have hp := plan?_keepPlan hk name
    rw [← plan?_run hl] at hp
    rw [step_applyPlan hp]

end Run

section Retries

def copyOf (target source : String) : Value := .object [(target, .object [("source", .text source)])]

def retriesInput : Value := .object [("properties", .object [("number", .object [])])]

def retriesOutput : Value :=
  .object [("properties", .object [("id", .object []), ("key", .object [])])]

/-- Of four compilations the first and the third succeed; the second has no schema to read, and the
fourth names a target that is not declared. -/
def retries : List Step :=
  [.compile (copyOf "id" "number") retriesInput retriesOutput,
    .compile (copyOf "id" "number") "number" retriesOutput,
    .compileParsed (.level [("kind", "order")] [("key", .copy "number")])
      ⟨none, [("number", .object [])], none⟩ ⟨none, [("key", .object [])], none⟩,
    .apply .null,
    .compile (copyOf "name" "number") retriesInput retriesOutput]

def retriesData : Value := .object [("number", " 7")]

/-- What the third step made is kept, and a plan of it stays what it is when another compilation
succeeds. -/
theorem run_keeps_latest_retries :
    ∃ final replies kept,
      (start ⟨"erp", true⟩ .unconfigured .unconfigured).run retries = (final, replies) ∧
      final.mapper.compiled = some kept ∧
      (start ⟨"erp", true⟩ .unconfigured .unconfigured).Latest retries kept ∧
      kept.definition = .level [("kind", "order")] [("key", .copy "number")] ∧
      (final.step (.apply retriesData)).2 =
        .output (.object [("key", "7"), ("kind", "order")]) ∧
      (((final.step (.keepPlan "third")).1.run retries).1.step
        (.applyPlan "third" retriesData "erp")).2 =
          .output (.object [("key", "7"), ("kind", "order")]) := by
  obtain ⟨final, replies, kept, h, hk, hd, ha⟩ : ∃ final replies kept,
      (start ⟨"erp", true⟩ .unconfigured .unconfigured).run retries = (final, replies) ∧
      final.mapper.compiled = some kept ∧
      kept.definition = .level [("kind", "order")] [("key", .copy "number")] ∧
      replyOf (kept.plan.apply retriesData "erp").outcome =
        .output (.object [("key", "7"), ("kind", "order")]) := ⟨_, _, _, rfl, rfl, rfl, rfl⟩
  obtain ⟨-, hlatest, -, -, happly, hkept⟩ := run_keeps_latest h
  have hl : ∀ step ∈ retries, step ≠ .keepPlan "third" := by
    simp [retries]
  refine ⟨final, replies, kept, h, hk, hlatest kept hk, hd, ?_, ?_⟩
  · rw [happly, hk]
    exact ha
  · rw [hkept "third" kept retries hk hl]
    exact ha

end Retries

end Reshape.Session
