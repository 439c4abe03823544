import Reshape.Proofs.Plan.Assembly
import Reshape.Proofs.Plan.Mirror

/-!
# The calls of a plan and its failures

The transforms that a plan calls on an input, each with its argument, in the order of the nodes. The
list is read off the plan alone; no result has a part in it, so nothing that is left out of the output
can hide a call. Applying the plan fails exactly when a call does, like the first one that does.
-/
namespace Reshape

/-- A call that a node makes. -/
structure Call where
  node : Node
  transform : Transform
  argument : Value

def Call.result (call : Call) : Except Error Value := call.transform.call call.argument

def Call.Succeeds (call : Call) : Prop := ∃ value, call.result = .ok value

/-- The call of a node, if it makes one: with its source as it reads it, or with the whole input. -/
def Node.call? (input : Value) (node : Node) : Option Call :=
  match node.strategy with
  | .lookup source transform | .functionOfField source transform =>
    some ⟨node, transform, source.read input⟩
  | .functionOfInput transform => some ⟨node, transform, input⟩
  | _ => none

/-- The calls of a node and of all nodes below it. -/
def Node.calls (input : Value) (node : Node) : List Call :=
  node.preorder.filterMap (Node.call? input)

/-- The calls of all nodes of a plan, at any depth. -/
def Level.calls (input : Value) (level : Level) : List Call :=
  level.preorder.filterMap (Node.call? input)

/-- The failure of the first of some calls that fails. -/
def firstFailure (calls : List Call) : Option Error :=
  calls.findSome? fun call => Outcome.failure? call.result

theorem Level.calls_eq (input : Value) (level : Level) :
    level.calls input = level.nodes.flatMap (Node.calls input) := by
  rw [Level.calls, Level.preorder_eq, List.filterMap_flatMap]
  rfl

/-- The call of a node comes before those of its levels, one level after the other. -/
theorem Node.calls_eq (input : Value) (node : Node) :
    node.calls input =
      (node.call? input).toList ++ node.strategy.levels.flatMap (Level.calls input) := by
  rw [Node.calls, Node.preorder_eq, List.filterMap_cons, List.filterMap_flatMap]
  cases node.call? input <;> rfl

theorem firstFailure_singleton (call : Call) :
    firstFailure [call] = Outcome.failure? call.result := by
  rw [firstFailure, List.findSome?_cons]
  cases Outcome.failure? call.result <;> rfl

theorem firstFailure_eq_none_iff {calls : List Call} :
    firstFailure calls = none ↔ ∀ call ∈ calls, call.Succeeds := by
  simp only [firstFailure, List.findSome?_eq_none_iff, Outcome.failure?_eq_none_iff, Call.Succeeds]

theorem firstFailure_eq_some_iff {calls : List Call} {e : Error} :
    firstFailure calls = some e ↔ ∃ before call after, calls = before ++ call :: after ∧
      (∀ earlier ∈ before, earlier.Succeeds) ∧ call.result = .error e := by
  simp only [firstFailure, List.findSome?_eq_some_iff, Outcome.failure?_eq_some_iff,
    Outcome.failure?_eq_none_iff, Call.Succeeds, and_comm]

/-- The first failure in lists that are put together is the first one among theirs. -/
theorem firstFailure_flatMap {α : Type} {as : List α} {calls : α → List Call}
    {failure : α → Option Error} (each : ∀ a ∈ as, firstFailure (calls a) = failure a) :
    firstFailure (as.flatMap calls) = as.findSome? failure := by
  induction as with
  | nil => rfl
  | cons a as ih =>
    obtain ⟨head, tail⟩ := List.forall_mem_cons.mp each
    have hr := ih tail
    unfold firstFailure at head hr ⊢
    rw [List.flatMap_cons, List.findSome?_append, List.findSome?_cons, head, hr]
    cases failure a <;> rfl

section Failure

variable {input : Value} {origin : String}

/-- A node fails like the first failing call of its own and of the nodes below it, if its levels
fail so; what the node leaves out is of no account. -/
theorem Node.firstFailure_calls {node : Node}
    (below : ∀ level ∈ node.strategy.levels, firstFailure (level.calls input) =
      Outcome.failure? (level.output input origin).outcome) :
    firstFailure (node.calls input) = Outcome.failure? (node.made input origin) := by
  have hb := firstFailure_flatMap below
  rw [Node.calls_eq, Node.made, Outcome.failure?_map, Node.outcome_result]
  obtain ⟨target, fragment, strategy⟩ := node
  cases strategy with
  | copy source =>
    rw [Node.strategy, outcome_result_copy]
    rfl
  | lookup source transform =>
    rw [Node.strategy, outcome_result_lookup]
    exact firstFailure_singleton _
  | functionOfField source transform =>
    rw [Node.strategy, outcome_result_functionOfField]
    exact firstFailure_singleton _
  | functionOfInput transform =>
    rw [Node.strategy, outcome_result_functionOfInput]
    exact firstFailure_singleton _
  | nestedObject level =>
    change firstFailure ([level].flatMap _) = _
    rw [List.flatMap_singleton, Node.strategy, outcome_result_nestedObject, Outcome.failure?_map]
    exact below level (List.mem_singleton_self level)
  | nestedArray levels =>
    change firstFailure (levels.flatMap _) = _
    rw [Node.strategy, outcome_result_nestedArray, Outcome.failure?_map, Outcome.failure?_mapM]
    exact hb

/-- A level fails like the first failing one of its calls. -/
theorem Level.firstFailure_calls (level : Level) :
    firstFailure (level.calls input) =
      Outcome.failure? (level.output input origin).outcome := by
  induction level using Level.induction with
  | mk constants nodes ih =>
    rw [Level.outcome_output, Outcome.failure?_map, Outcome.failure?_mapM, Level.calls_eq]
    exact firstFailure_flatMap fun node hn => Node.firstFailure_calls (ih node hn)

end Failure

/-- An unknown value is reported against the target that the table was found for, under whatever
target the table itself reports it. -/
theorem Scope.Finds.target_eq {scope : Scope} {key text target : String} {table : TableRef}
    {transform : Transform} {value : Value} (h : scope.Finds key table transform)
    (he : transform.call value = .error (.unknownLookupValue text target)) : target = key := by
  cases h with
  | inline =>
    change lookUp _ _ _ = _ at he
    unfold lookUp at he
    split at he
    · cases he; rfl
    · cases he; rfl
    · cases he
  | @named name table known =>
    change (table.call value).mapError _ = _ at he
    cases hr : table.call value with
    | ok found => rw [hr] at he; cases he
    | error e =>
      rw [hr] at he
      cases e with
      | unknownLookupValue text other => cases he; rfl
      | _ => cases he

/-- In a built plan, a call of a lookup node reports unknown values against the node's target. -/
theorem target_of_unknownLookupValue {scope : Scope} {definition : Definition} {output : Fragment}
    {plan : Level} (hp : (scope.build definition output).outcome = .ok plan) {input : Value}
    {call : Call} (hc : call ∈ plan.calls input) (hk : call.node.kind = .lookup)
    {text target : String} (he : call.result = .error (.unknownLookupValue text target)) :
    target = call.node.target := by
  obtain ⟨node, hn, hcall⟩ := List.mem_filterMap.mp hc
  obtain ⟨spec, hr⟩ := (build_eq_ok.mp hp).rule_of_mem hn
  obtain ⟨name, fragment, strategy⟩ := node
  cases strategy with
  | lookup source transform =>
    cases hcall
    cases hr with
    | lookup _ found => exact found.target_eq he
  | copy source => cases hcall
  | functionOfField source transform => cases hcall; cases hk
  | functionOfInput transform => cases hcall; cases hk
  | nestedObject level => cases hcall
  | nestedArray levels => cases hcall

theorem failure?_apply (plan : Level) (input : Value) (origin : String) :
    Outcome.failure? (plan.apply input origin).outcome = firstFailure (plan.calls input) := by
  rw [plan.outcome_apply, Outcome.failure?_map, plan.firstFailure_calls]

/-- A plan that only copies and nests makes no calls. -/
theorem calls_eq_nil {plan : Level} (input : Value)
    (h : ∀ node ∈ plan.preorder,
      node.kind = .copy ∨ node.kind = .nestedObject ∨ node.kind = .nestedArray) :
    plan.calls input = [] := by
  rw [Level.calls, List.filterMap_eq_nil_iff]
  intro node hn
  have hk := h node hn
  obtain ⟨target, fragment, strategy⟩ := node
  cases strategy with
  | copy source => rfl
  | nestedObject level => rfl
  | nestedArray levels => rfl
  | lookup source transform => rcases hk with hk | hk | hk <;> cases hk
  | functionOfField source transform => rcases hk with hk | hk | hk <;> cases hk
  | functionOfInput transform => rcases hk with hk | hk | hk <;> cases hk

/-- Applying a plan succeeds exactly when all of its calls do, and otherwise fails with the failure
of the first one that fails. So a plan that only copies and nests succeeds on every input; and where
a plan was built, a lookup reports an unknown value against its own target. -/
theorem apply_fails_iff_call_fails (plan : Level) (input : Value) (origin : String) :
    ((∃ out, (plan.apply input origin).outcome = .ok out) ↔
      ∀ call ∈ plan.calls input, call.Succeeds) ∧
    (∀ e, (plan.apply input origin).outcome = .error e ↔
      ∃ before call after, plan.calls input = before ++ call :: after ∧
        (∀ earlier ∈ before, earlier.Succeeds) ∧ call.result = .error e) ∧
    ((∀ node ∈ plan.preorder,
        node.kind = .copy ∨ node.kind = .nestedObject ∨ node.kind = .nestedArray) →
      ∃ out, (plan.apply input origin).outcome = .ok out) ∧
    ∀ scope definition output, (Scope.build scope definition output).outcome = .ok plan →
      ∀ call ∈ plan.calls input, call.node.kind = .lookup →
        ∀ text target, call.result = .error (.unknownLookupValue text target) →
          target = call.node.target := by
  have hok : (∃ out, (plan.apply input origin).outcome = .ok out) ↔
      ∀ call ∈ plan.calls input, call.Succeeds := by
    rw [← Outcome.failure?_eq_none_iff, failure?_apply, firstFailure_eq_none_iff]
  refine ⟨hok, fun e => ?_, fun h => hok.mpr ?_, ?_⟩
  · rw [← Outcome.failure?_eq_some_iff, failure?_apply, firstFailure_eq_some_iff]
  · rw [calls_eq_nil input h]
    exact List.forall_mem_nil _
  · intro scope definition output hp call hc hk text target he
    exact target_of_unknownLookupValue hp hc hk he

section Tour

def tourScope : Scope where
  input := ⟨none, [("town", .object []), ("state", .object [])], none⟩
  functions := .unconfigured
  lookups := LookupTables.resolver ⟨[("towns", [("B", "Berlin")])]⟩

def tourDefinition : Definition := .level []
  [("stops", .nested (.many [.level [] [("city", .lookup "town" (.named "towns"))]])),
    ("country", .lookup "state" (.inline []))]

def tourOutput : Fragment where
  kind := none
  properties :=
    [("stops", .object
        [("type", "array"),
          ("items", .object [("properties", .object [("city", .object [])])])]),
      ("country", .object [])]
  items := none

def tourInput : Value := .object [("town", "X "), ("state", "Y")]

def tourCopies : Level := .mk [] [.mk "id" .empty (.copy ⟨"number", .empty⟩)]

/-- Both lookups fail; the one in the element of the array comes first, and reports its target in
place of the name of its table. A plan that copies a field has nothing that could fail. -/
theorem apply_fails_iff_call_fails_tour :
    ∃ plan, (tourScope.build tourDefinition tourOutput).outcome = .ok plan ∧
      (plan.apply tourInput "erp").outcome = .error (.unknownLookupValue "X" "city") ∧
      (∃ call ∈ plan.calls tourInput, call.node.kind = .lookup ∧
        call.result = .error (.unknownLookupValue "X" "city") ∧ "city" = call.node.target) ∧
      ∃ out, (tourCopies.apply .null "erp").outcome = .ok out := by
  obtain ⟨plan, hp, hk, he⟩ : ∃ plan,
      (tourScope.build tourDefinition tourOutput).outcome = .ok plan ∧
      (∀ call ∈ plan.calls tourInput, call.node.kind = .lookup) ∧
      (plan.apply tourInput "erp").outcome = .error (.unknownLookupValue "X" "city") :=
    ⟨_, rfl, by decide, rfl⟩
  obtain ⟨-, hfails, -, htarget⟩ := apply_fails_iff_call_fails plan tourInput "erp"
  obtain ⟨before, call, after, hc, -, hr⟩ := (hfails _).mp he
  have hm : call ∈ plan.calls tourInput := hc ▸ List.mem_append_right before List.mem_cons_self
  have ht := htarget _ _ _ hp call hm (hk call hm) _ _ hr
  obtain ⟨-, -, hcopies, -⟩ := apply_fails_iff_call_fails tourCopies .null "erp"
  exact ⟨plan, hp, he, ⟨call, hm, hk call hm, hr, ht⟩, hcopies (by decide)⟩

end Tour

end Reshape
