import Reshape.Plan.Output
import Reshape.Proofs.Fields
import Reshape.Proofs.Outcome
import Reshape.Proofs.Plan.Tree

/-!
# What a level is assembled from

The output of a level, without the journal: the results of its nodes in order, less those that are
left out, put into an object and joined by the constants. Each construct of a plan has one equation
for its outcome; the first failure among the parts is the failure of the whole.
-/
namespace Reshape

/-- Null and the empty text, the only results that a level leaves out. -/
def Value.Blank (value : Value) : Prop := value = .null ∨ value = .text ""

theorem isSuppressed_eq_true_iff {value : Value} : value.isSuppressed = true ↔ value.Blank := by
  cases value with
  | text s => simp [Value.isSuppressed, Value.Blank]
  | _ => simp [Value.isSuppressed, Value.Blank]

theorem isSuppressed_eq_false_iff {value : Value} : value.isSuppressed = false ↔ ¬ value.Blank := by
  rw [← isSuppressed_eq_true_iff, Bool.not_eq_true]

instance : DecidablePred Value.Blank :=
  fun value => decidable_of_iff (value.isSuppressed = true) isSuppressed_eq_true_iff

/-- The results that are not left out. -/
def written (results : List (String × Value)) : List (String × Value) :=
  results.filter fun result => !result.2.isSuppressed

/-- The output of a level whose nodes have these results. -/
def assembled (constants : Fields) (results : List (String × Value)) : Fields :=
  withConstants constants (Fields.ofList (written results))

/-- An element of a nested array. -/
def stamped (origin : String) (fields : Fields) : Value :=
  .object (fields.insert originKey (.text origin))

/-- The elements that the outputs of some levels become. -/
def survivors (origin : String) (outputs : List Fields) : List Value :=
  (outputs.filter fun fields => !fields.isEmpty).map (stamped origin)

theorem survivors_cons (origin : String) (fields : Fields) (outputs : List Fields) :
    survivors origin (fields :: outputs) =
      if fields.isEmpty then survivors origin outputs
      else stamped origin fields :: survivors origin outputs := by
  cases fields <;> rfl

/-- What a node makes of an input, under its target. -/
def Node.made (input : Value) (origin : String) (node : Node) : Except Error (String × Value) :=
  (node.target, ·) <$> (node.result input origin).outcome

theorem outcome_outputOfNodes (input : Value) (origin : String) (nodes : List Node)
    (output : Fields) :
    (outputOfNodes input origin nodes output).outcome =
      (fun results => (written results).foldl (fun fields r => fields.insert r.1 r.2) output) <$>
        nodes.mapM (Node.made input origin) := by
  induction nodes generalizing output with
  | nil => rfl
  | cons node rest ih =>
    rw [outputOfNodes, Journal.outcome_bind, List.mapM_cons, Node.made]
    cases (node.result input origin).outcome with
    | error e => rfl
    | ok result =>
      cases hs : result.isSuppressed <;> simp [hs, ih, written, Outcome.ok_bind]

/-- A level assembles the results of its nodes. -/
theorem Level.outcome_output (input : Value) (origin : String) (level : Level) :
    (level.output input origin).outcome =
      assembled level.constants <$> level.nodes.mapM (Node.made input origin) := by
  obtain ⟨constants, nodes⟩ := level
  rw [Level.output, Journal.outcome_bind, outcome_outputOfNodes, Level.nodes]
  cases nodes.mapM (Node.made input origin) <;> rfl

/-- Applying a plan makes an object of its output. -/
theorem Level.outcome_apply (input : Value) (origin : String) (plan : Level) :
    (plan.apply input origin).outcome =
      Value.object <$> (plan.output input origin).outcome := by
  rw [Level.apply, Journal.outcome_bind]
  cases (plan.output input origin).outcome <;> rfl

/-- Levels become the elements of an array with their outputs, in order, less the empty ones. -/
theorem outcome_elements (input : Value) (origin target : String) (index : Nat)
    (levels : List Level) :
    (elements input origin target index levels).outcome =
      survivors origin <$> levels.mapM fun level => (level.output input origin).outcome := by
  induction levels generalizing index with
  | nil => rfl
  | cons level rest ih =>
    rw [elements, Journal.outcome_bind, List.mapM_cons]
    cases (level.output input origin).outcome with
    | error e => rfl
    | ok fields =>
      cases fields with
      | nil =>
        change (elements input origin target (index + 1) rest).outcome = _
        rw [ih]
        cases rest.mapM fun level => (level.output input origin).outcome <;> rfl
      | cons field fields => simp [ih, survivors, stamped, Outcome.ok_bind]

section Strategy

variable (input : Value) (origin target : String)

theorem outcome_result_copy (source : Binding) :
    ((Strategy.copy source).result input origin target).outcome = .ok (source.read input) := rfl

theorem outcome_result_lookup (source : Binding) (transform : Transform) :
    ((Strategy.lookup source transform).result input origin target).outcome =
      transform.call (source.read input) := rfl

theorem outcome_result_functionOfField (source : Binding) (transform : Transform) :
    ((Strategy.functionOfField source transform).result input origin target).outcome =
      transform.call (source.read input) := rfl

theorem outcome_result_functionOfInput (transform : Transform) :
    ((Strategy.functionOfInput transform).result input origin target).outcome =
      transform.call input := rfl

theorem outcome_result_nestedObject (level : Level) :
    ((Strategy.nestedObject level).result input origin target).outcome =
      (fun fields => if fields.isEmpty then Value.null else .object fields) <$>
        (level.output input origin).outcome := by
  rw [Strategy.result, Journal.outcome_bind]
  cases (level.output input origin).outcome with
  | error e => rfl
  | ok fields => cases fields <;> rfl

theorem outcome_result_nestedArray (levels : List Level) :
    ((Strategy.nestedArray levels).result input origin target).outcome =
      (Value.list ∘ survivors origin) <$>
        levels.mapM fun level => (level.output input origin).outcome := by
  rw [Strategy.result, Journal.outcome_bind, outcome_elements]
  cases levels.mapM fun level => (level.output input origin).outcome <;> rfl

end Strategy

/-- A node makes what its strategy does; the note that it comes next has no influence. -/
theorem Node.outcome_result (input : Value) (origin : String) (node : Node) :
    (node.result input origin).outcome =
      (node.strategy.result input origin node.target).outcome := by
  obtain ⟨target, fragment, strategy⟩ := node
  rfl

theorem made_eq_ok {input : Value} {origin : String} {node : Node} {result : String × Value} :
    node.made input origin = .ok result ↔ result.1 = node.target ∧
      (node.strategy.result input origin node.target).outcome = .ok result.2 := by
  rw [Node.made, Outcome.map_eq_ok, Node.outcome_result]
  constructor
  · rintro ⟨value, hv, rfl⟩
    exact ⟨rfl, hv⟩
  · rintro ⟨ht, hv⟩
    exact ⟨result.2, hv, Prod.ext ht.symm rfl⟩

theorem keys_of_made {input : Value} {origin : String} {nodes : List Node}
    {results : List (String × Value)} (h : nodes.mapM (Node.made input origin) = .ok results) :
    Fields.keys results = nodes.map Node.target := by
  have hf := Outcome.mapM_eq_ok.mp h
  clear h
  induction hf with
  | nil => rfl
  | cons head _ ih => exact congrArg₂ List.cons (made_eq_ok.mp head).1 ih

/-- Every member of an assembled level is a result that was not left out, or a constant. -/
theorem mem_assembled {constants : Fields} {results : List (String × Value)}
    {entry : String × Value} (h : entry ∈ assembled constants results) :
    entry ∈ written results ∨ entry ∈ constants := by
  unfold assembled withConstants at h
  split at h
  · exact Or.inl (Fields.mem_ofList h)
  · exact (Fields.mem_foldl_insertNew h).symm.imp Fields.mem_ofList id

/-- An assembled level has no key twice, whatever its constants are. -/
theorem nodup_assembled (constants : Fields) (results : List (String × Value)) :
    (assembled constants results).keys.Nodup := by
  unfold assembled withConstants
  split
  · exact Fields.nodup_ofList
  · exact Fields.nodup_foldl_insertNew Fields.nodup_ofList

/-- The output of a level has no key twice. -/
theorem nodup_output {input : Value} {origin : String} {level : Level} {made : Fields}
    (h : (level.output input origin).outcome = .ok made) : made.keys.Nodup := by
  rw [Level.outcome_output, Outcome.map_eq_ok] at h
  obtain ⟨results, -, rfl⟩ := h
  exact nodup_assembled _ _

end Reshape
