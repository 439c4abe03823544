import Reshape.Mapper
import Reshape.Proofs.Plan.Fault

/-!
# Compilations of a mapper

What a successful compilation reads, builds and keeps, which fault an unsuccessful one reports, and
what a mapper that keeps a plan makes of data.
-/
namespace Reshape.Mapper

/-- Compiling parsed arguments keeps the plan, whole, with what it was built of; neither the flag
for validation nor what is noted has any influence. -/
theorem outcome_compileParsed (mapper : Mapper) (definition : Definition)
    (input output : Fragment) :
    (mapper.compileParsed definition input output).outcome =
      (fun plan => { mapper with compiled := some ⟨definition, input, output, plan⟩ }) <$>
        (Scope.build ⟨input, mapper.functions, mapper.lookups⟩ definition output).outcome := by
  unfold compileParsed
  cases mapper.config.validate <;>
    simp only [Bool.false_eq_true, ↓reduceIte, Journal.outcome_bind, Journal.outcome_note,
      Journal.outcome_pure, Outcome.ok_bind] <;>
    cases (Scope.build ⟨input, mapper.functions, mapper.lookups⟩ definition output).outcome <;> rfl

/-- Compiling parsed arguments succeeds exactly when the plan can be built. -/
theorem compileParsed_eq_ok {mapper compiled : Mapper} {definition : Definition}
    {input output : Fragment} :
    (mapper.compileParsed definition input output).outcome = .ok compiled ↔
      ∃ plan, (Scope.build ⟨input, mapper.functions, mapper.lookups⟩ definition output).outcome =
          .ok plan ∧
        compiled = { mapper with compiled := some ⟨definition, input, output, plan⟩ } := by
  rw [outcome_compileParsed, Outcome.map_eq_ok]
  simp only [@eq_comm _ _ compiled]

/-- Compiling raw arguments succeeds exactly when the definition and both schemas can be read and
what is read compiles. -/
theorem compile_ok_iff_compileParsed {mapper compiled : Mapper}
    {definition inputSchema outputSchema : Value} :
    (mapper.compile definition inputSchema outputSchema).outcome = .ok compiled ↔
      ∃ parsed input output, Definition.ofValue definition = .ok parsed ∧
        Fragment.Reads inputSchema input ∧ Fragment.Reads outputSchema output ∧
        (mapper.compileParsed parsed input output).outcome = .ok compiled := by
  simp only [compile, Journal.outcome_bind, Journal.outcome_lift, Outcome.bind_eq_ok,
    Fragment.ofValue_eq_ok, exists_and_left]

/-- Compiling succeeds exactly when the definition and both schemas can be read and the plan can be
built. -/
theorem compile_eq_ok {mapper compiled : Mapper} {definition inputSchema outputSchema : Value} :
    (mapper.compile definition inputSchema outputSchema).outcome = .ok compiled ↔
      ∃ parsed input output plan, Definition.ofValue definition = .ok parsed ∧
        Fragment.Reads inputSchema input ∧ Fragment.Reads outputSchema output ∧
        (Scope.build ⟨input, mapper.functions, mapper.lookups⟩ parsed output).outcome = .ok plan ∧
        compiled = { mapper with compiled := some ⟨parsed, input, output, plan⟩ } := by
  simp only [compile_ok_iff_compileParsed, compileParsed_eq_ok, exists_and_left]

/-- The fault of a compilation of raw arguments: of the definition, whatever the schemas are; else of
the input schema, else of the output schema, and else of the building. -/
inductive Faults (mapper : Mapper) (definition inputSchema outputSchema : Value) : Error → Prop where
  | definition {e : Error} (malformed : Definition.ofValue definition = .error e) :
      Faults mapper definition inputSchema outputSchema e
  | inputSchema {parsed : Definition} {e : Error} (read : Definition.ofValue definition = .ok parsed)
      (malformed : Fragment.Rejects "input schema" inputSchema e) :
      Faults mapper definition inputSchema outputSchema e
  | outputSchema {parsed : Definition} {input : Fragment} {e : Error}
      (read : Definition.ofValue definition = .ok parsed)
      (readInput : Fragment.Reads inputSchema input)
      (malformed : Fragment.Rejects "output schema" outputSchema e) :
      Faults mapper definition inputSchema outputSchema e
  | building {parsed : Definition} {input output : Fragment} {e : Error}
      (read : Definition.ofValue definition = .ok parsed)
      (readInput : Fragment.Reads inputSchema input)
      (readOutput : Fragment.Reads outputSchema output)
      (fault : Reshape.Faults ⟨input, mapper.functions, mapper.lookups⟩ parsed output e) :
      Faults mapper definition inputSchema outputSchema e

theorem compileParsed_eq_error {mapper : Mapper} {definition : Definition} {input output : Fragment}
    {e : Error} :
    (mapper.compileParsed definition input output).outcome = .error e ↔
      Reshape.Faults ⟨input, mapper.functions, mapper.lookups⟩ definition output e := by
  rw [outcome_compileParsed, Outcome.map_eq_error, build_eq_error]

theorem compile_eq_error {mapper : Mapper} {definition inputSchema outputSchema : Value}
    {e : Error} :
    (mapper.compile definition inputSchema outputSchema).outcome = .error e ↔
      mapper.Faults definition inputSchema outputSchema e := by
  simp only [compile, Journal.outcome_bind, Journal.outcome_lift, Outcome.bind_eq_error,
    Fragment.ofValue_eq_error, Fragment.ofValue_eq_ok, compileParsed_eq_error]
  constructor
  · rintro (h | ⟨parsed, hd, h | ⟨input, hi, h | ⟨output, ho, h⟩⟩⟩)
    · exact .definition h
    · exact .inputSchema hd h
    · exact .outputSchema hd hi h
    · exact .building hd hi ho h
  · intro h
    cases h with
    | definition malformed => exact .inl malformed
    | inputSchema read malformed => exact .inr ⟨_, read, .inl malformed⟩
    | outputSchema read readInput malformed =>
      exact .inr ⟨_, read, .inr ⟨_, readInput, .inl malformed⟩⟩
    | building read readInput readOutput fault =>
      exact .inr ⟨_, read, .inr ⟨_, readInput, .inr ⟨_, readOutput, fault⟩⟩⟩

/-- A mapper that keeps a plan applies it with its own origin. -/
theorem apply_of_compiled {mapper : Mapper} {kept : Compiled} (h : mapper.compiled = some kept)
    (data : Value) : mapper.apply data = kept.plan.apply data mapper.config.origin := by
  rw [Mapper.apply, plan?, h, Option.map_some]

end Reshape.Mapper
