import Reshape.Proofs.Mapper
import Reshape.Proofs.Plan.Assembly
import Reshape.Proofs.Plan.WellFormed

/-!
# Outputs inside the declared shape

Whatever a compiled plan makes of any input conforms, level by level, to the definition and the
output schema it was compiled from. The schema was consulted at compilation only and the output is
made without it; what joins the two is that the plan mirrors the definition. Nothing is said about
the inside of values that are copied or that transforms return.
-/
namespace Reshape

mutual

/-- An entry has its place in the output of a level: it is a constant of the level, for whose key
there is no field, or the level has a field of that key, the output fragment declares it, and the
value fits its rule. -/
inductive Accounts (origin : String) : Definition → Fragment → String × Value → Prop where
  | constant {constants : Fields} {fields : List (String × Spec)} {output : Fragment}
      {entry : String × Value} (given : entry ∈ constants)
      (unmapped : ∀ spec, (entry.1, spec) ∉ fields) :
      Accounts origin (.level constants fields) output entry
  | field {constants : Fields} {fields : List (String × Spec)} {output target : Fragment}
      {key : String} {spec : Spec} {value : Value} (given : (key, spec) ∈ fields)
      (declared : output.Declares key target) (fits : Fits origin spec target value) :
      Accounts origin (.level constants fields) output (key, value)

/-- A value fits the rule of a field whose target has this fragment. -/
inductive Fits (origin : String) : Spec → Fragment → Value → Prop where
  /-- Without a nested body, any value but those that are left out. -/
  | plain {spec : Spec} {target : Fragment} {value : Value} (rule : ∀ body, spec ≠ .nested body)
      (shown : value.isSuppressed = false) : Fits origin spec target value
  /-- An object that is not empty and conforms to the one nested definition. -/
  | object {definition : Definition} {target : Fragment} {fields : Fields}
      (kind : target.kind = some (.text "object")) (nonempty : fields ≠ [])
      (distinct : fields.keys.Nodup)
      (each : ∀ entry ∈ fields, Accounts origin definition target entry) :
      Fits origin (.nested (.single definition)) target (.object fields)
  /-- An array whose elements fit the nested definitions against the fragment of its items. -/
  | array {body : Nested} {target items : Fragment} {elements : List Value}
      (kind : target.kind = some (.text "array")) (itemsOf : target.HasItems items)
      (each : FitElements origin items body.toList elements) :
      Fits origin (.nested body) target (.list elements)

/-- The elements are objects that stand for some of the definitions, in the order of these. Each
carries the origin, and conforms to its definition in all other keys. -/
inductive FitElements (origin : String) : Fragment → List Definition → List Value → Prop where
  | nil {items : Fragment} : FitElements origin items [] []
  | skip {items : Fragment} {definition : Definition} {definitions : List Definition}
      {elements : List Value} (rest : FitElements origin items definitions elements) :
      FitElements origin items (definition :: definitions) elements
  | take {items : Fragment} {definition : Definition} {definitions : List Definition}
      {fields : Fields} {elements : List Value}
      (stamp : fields.get? originKey = some (.text origin)) (distinct : fields.keys.Nodup)
      (each : ∀ entry ∈ fields, entry.1 ≠ originKey → Accounts origin definition items entry)
      (rest : FitElements origin items definitions elements) :
      FitElements origin items (definition :: definitions) (.object fields :: elements)

end

/-- A value is an object with distinct keys, each entry of which has its place in the definition. -/
def Conforms (origin : String) (definition : Definition) (output : Fragment) (value : Value) :
    Prop :=
  ∃ fields : Fields, value = .object fields ∧ fields.keys.Nodup ∧
    ∀ entry ∈ fields, Accounts origin definition output entry

variable {scope : Scope} {input : Value} {origin : String}

mutual

theorem Mirrors.accounts {definition : Definition} {output : Fragment} {level : Level}
    {made : Fields} : Mirrors scope definition output level →
      (level.output input origin).outcome = .ok made →
        ∀ entry ∈ made, Accounts origin definition output entry
  | .level each, ho, entry, he => by
    rw [Level.outcome_output, Outcome.map_eq_ok] at ho
    obtain ⟨results, hr, rfl⟩ := ho
    rcases mem_assembled he with hw | hc
    · obtain ⟨hm, hs⟩ := List.mem_filter.mp hw
      obtain ⟨spec, target, given, declared, fits⟩ :=
        each.fits hr hm (Bool.not_eq_true' _ ▸ hs)
      exact .field given declared fits
    · refine .constant hc fun spec given => ?_
      cases each.wellFormed given with
      | mk fresh _ _ => exact fresh (List.mem_map_of_mem hc)

/-- Every result that is not left out fits the rule of a field of its key. -/
theorem MirrorsFields.fits {constants : Fields} {output : Fragment}
    {fields : List (String × Spec)} {nodes : List Node} {results : List (String × Value)}
    {entry : String × Value} : MirrorsFields scope constants output fields nodes →
      nodes.mapM (Node.made input origin) = .ok results → entry ∈ results →
        entry.2.isSuppressed = false → ∃ spec target, (entry.1, spec) ∈ fields ∧
          output.Declares entry.1 target ∧ Fits origin spec target entry.2
  | .nil, hr, hm, _ => by
    cases hr
    cases hm
  | .cons fresh declared head tail, hr, hm, hs => by
    simp only [List.mapM_cons, Outcome.bind_eq_ok, made_eq_ok] at hr
    obtain ⟨first, ⟨ht, hv⟩, rest, hrest, he⟩ := hr
    cases he
    rcases List.mem_cons.mp hm with rfl | hm
    · rw [ht]
      exact ⟨_, _, List.mem_cons_self, declared, head.fits hv hs⟩
    · obtain ⟨spec, target, given, hd, hf⟩ := tail.fits hrest hm hs
      exact ⟨spec, target, List.mem_cons_of_mem _ given, hd, hf⟩

theorem MirrorsSpec.fits {key name : String} {spec : Spec} {target : Fragment}
    {strategy : Strategy} {value : Value} : MirrorsSpec scope key spec target strategy →
      (strategy.result input origin name).outcome = .ok value → value.isSuppressed = false →
        Fits origin spec target value
  | .copy _, _, hs => .plain (fun _ h => by cases h) hs
  | .lookup _ _, _, hs => .plain (fun _ h => by cases h) hs
  | .functionOfField _ _, _, hs => .plain (fun _ h => by cases h) hs
  | .functionOfInput _, _, hs => .plain (fun _ h => by cases h) hs
  | .object kind inner, hv, hs => by
    rw [outcome_result_nestedObject, Outcome.map_eq_ok] at hv
    obtain ⟨fields, hf, rfl⟩ := hv
    cases fields with
    | nil => cases hs
    | cons field fields =>
      exact .object kind (List.cons_ne_nil _ _) (nodup_output hf) (inner.accounts hf)
  | .array kind itemsOf each, hv, _ => by
    rw [outcome_result_nestedArray, Outcome.map_eq_ok] at hv
    obtain ⟨outputs, hm, rfl⟩ := hv
    exact .array kind itemsOf (each.fits hm)

theorem MirrorsLevels.fits {items : Fragment} {definitions : List Definition}
    {levels : List Level} {outputs : List Fields} :
    MirrorsLevels scope items definitions levels →
      (levels.mapM fun level => (level.output input origin).outcome) = .ok outputs →
        FitElements origin items definitions (survivors origin outputs)
  | .nil, hm => by
    cases hm
    exact .nil
  | .cons head tail, hm => by
    simp only [List.mapM_cons, Outcome.bind_eq_ok] at hm
    obtain ⟨fields, hf, rest, hrest, he⟩ := hm
    cases he
    have ht := tail.fits hrest
    cases fields with
    | nil => exact .skip ht
    | cons field fields =>
      refine .take ?_ (Fields.nodup_insert (nodup_output hf)) ?_ ht
      · rw [Fields.get?_insert, if_pos rfl]
      · intro entry hin hne
        rcases Fields.mem_insert hin with rfl | hin
        · exact absurd rfl hne
        · exact head.accounts hf entry hin

end

/-- Whatever a mapper makes of any data after a successful compilation conforms to the definition
and the output schema that were compiled, with the mapper's origin on every element of an array. -/
theorem output_conforms {mapper compiled : Mapper}
    {definition inputSchema outputSchema data out : Value}
    (hc : (mapper.compile definition inputSchema outputSchema).outcome = .ok compiled)
    (ha : (compiled.apply data).outcome = .ok out) :
    ∃ parsed output, Definition.ofValue definition = .ok parsed ∧
      Fragment.Reads outputSchema output ∧
      Conforms mapper.config.origin parsed output out := by
  obtain ⟨parsed, input, output, plan, hd, -, ho, hp, rfl⟩ := Mapper.compile_eq_ok.mp hc
  refine ⟨parsed, output, hd, ho, ?_⟩
  rw [Mapper.apply_of_compiled rfl, Level.outcome_apply, Outcome.map_eq_ok] at ha
  obtain ⟨fields, hf, rfl⟩ := ha
  exact ⟨fields, rfl, nodup_output hf, (build_eq_ok.mp hp).accounts hf⟩

section Order

def orderDefinition : Value := .object
  [("$constant", .object [("version", .int 1)]),
    ("id", .object [("source", "number")]),
    ("lines", .object [("$nested", .list
      [.object [("note", .object [("source", "remark")])],
        .object [("dataOrigin", .object [("source", "number")]),
          ("$constant", .object [("unit", .null)])]])])]

def orderInput : Value := .object
  [("properties", .object [("number", .object []), ("remark", .object [])])]

def orderOutput : Value := .object
  [("properties", .object
    [("id", .object []),
      ("lines", .object
        [("type", "array"),
          ("items", .object
            [("properties", .object [("note", .object []), ("dataOrigin", .object [])])])])])]

def orderData : Value := .object [("number", " 7 "), ("extra", .null)]

def orderResult : Value := .object
  [("id", "7"), ("lines", .list [.object [("dataOrigin", "erp"), ("unit", .null)]]),
    ("version", .int 1)]

/-- Of two elements the first is dropped, and the origin replaces what the second one mapped to the
key of the origin. -/
theorem output_conforms_order :
    ∃ compiled parsed output,
      ((Mapper.ofConfig ⟨"erp", false⟩).compile orderDefinition orderInput orderOutput).outcome =
        .ok compiled ∧
      (compiled.apply orderData).outcome = .ok orderResult ∧
      Definition.ofValue orderDefinition = .ok parsed ∧ Fragment.Reads orderOutput output ∧
      Conforms "erp" parsed output orderResult := by
  obtain ⟨compiled, hc, ha⟩ : ∃ compiled,
      ((Mapper.ofConfig ⟨"erp", false⟩).compile orderDefinition orderInput orderOutput).outcome =
        .ok compiled ∧
      (compiled.apply orderData).outcome = .ok orderResult := ⟨_, rfl, rfl⟩
  obtain ⟨parsed, output, hp, hr, hf⟩ := output_conforms hc ha
  exact ⟨compiled, parsed, output, hc, ha, hp, hr, hf⟩

end Order

end Reshape
