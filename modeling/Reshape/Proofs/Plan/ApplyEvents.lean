import Reshape.Proofs.Plan.Calls

/-!
# The events of an application

What is noted while a plan is applied, set against the tree of the plan. Each node that is reached is
announced once, in pre-order; the nodes that are reached are all of them, or those up to the first
whose call fails. What is noted behind a node, and behind a level below it, says exactly whether the
result was left out. Events carry targets and not places, so an account of a level says where in its
trace an event stands; nothing is said about the wording of events.
-/
namespace Reshape

/-- The target and kind of the node that an event announces. -/
def Event.applied? : Event → Option (String × StrategyKind)
  | .strategyApplied field kind => some (field, kind)
  | _ => none

/-- The failure of a node's own call, if it makes one that fails. -/
def Node.failure? (input : Value) (node : Node) : Option Error :=
  (node.call? input).bind fun call => Outcome.failure? call.result

/-- The nodes up to the first whose own call fails, and that one. -/
def reached (input : Value) : List Node → List Node
  | [] => []
  | node :: rest => node :: if (node.failure? input).isNone then reached input rest else []

/-- A journal announces nodes one by one, up to the first whose own call fails. -/
def Announces {α : Type} (input : Value) (nodes : List Node) (j : Journal Event Error α) : Prop :=
  j.entries.filterMap Event.applied? = (reached input nodes).map Node.caption

section Reached

variable {input : Value}

theorem firstFailure_eq_findSome? (nodes : List Node) :
    firstFailure (nodes.filterMap (Node.call? input)) = nodes.findSome? (Node.failure? input) := by
  rw [firstFailure, ← List.head?_filterMap, List.filterMap_filterMap, List.head?_filterMap]
  rfl

theorem reached_append (nodes more : List Node) :
    reached input (nodes ++ more) = reached input nodes ++
      if (nodes.findSome? (Node.failure? input)).isNone then reached input more else [] := by
  induction nodes with
  | nil => rfl
  | cons node rest ih =>
    rw [List.cons_append, reached, reached, List.findSome?_cons]
    cases hf : node.failure? input with
    | none => simp [ih]
    | some e => simp

theorem reached_eq_self {nodes : List Node} (h : nodes.findSome? (Node.failure? input) = none) :
    reached input nodes = nodes := by
  induction nodes with
  | nil => rfl
  | cons node rest ih =>
    rw [List.findSome?_cons] at h
    cases hf : node.failure? input with
    | none =>
      rw [hf] at h
      simp [reached, hf, ih h]
    | some e =>
      rw [hf] at h
      cases h

/-- Where a node fails that none before it does, the ones reached are those before it and itself. -/
theorem reached_of_split {before after : List Node} {node : Node} {e : Error}
    (hb : ∀ earlier ∈ before, earlier.failure? input = none) (hn : node.failure? input = some e) :
    reached input (before ++ node :: after) = before ++ [node] := by
  have hnone : before.findSome? (Node.failure? input) = none :=
    List.findSome?_eq_none_iff.mpr hb
  rw [reached_append, reached_eq_self hnone, hnone]
  simp [reached, hn]

end Reached

section Announcing

variable {input : Value} {origin : String} {α β : Type}

theorem Announces.of_silent {j : Journal Event Error α}
    (h : j.entries.filterMap Event.applied? = []) : Announces input [] j := h

/-- What follows announces its nodes too, unless the call of an earlier node fails. -/
theorem Announces.bind {nodes more : List Node} {j : Journal Event Error α}
    {f : α → Journal Event Error β} (hj : Announces input nodes j)
    (hfail : Outcome.failure? j.outcome = nodes.findSome? (Node.failure? input))
    (hf : ∀ a, Announces input more (f a)) : Announces input (nodes ++ more) (j >>= f) := by
  unfold Announces at hj
  rw [Announces, Journal.entries_bind, List.filterMap_append, hj, reached_append, ← hfail,
    List.map_append]
  cases j.outcome with
  | ok a =>
    have h := hf a
    rw [Announces] at h
    simp [Outcome.failure?, h]
  | error e => simp [Outcome.failure?]

theorem Announces.andPure {nodes : List Node} {j : Journal Event Error α}
    (hj : Announces input nodes j) (g : α → β) :
    Announces input nodes (j >>= fun a => pure (g a)) := by
  rw [bind_pure_comp, Announces, Journal.entries_map]
  exact hj

theorem Level.findSome?_failure? (level : Level) :
    Outcome.failure? (level.output input origin).outcome =
      level.preorder.findSome? (Node.failure? input) := by
  rw [← firstFailure_eq_findSome?]
  exact level.firstFailure_calls.symm

theorem Node.findSome?_failure? (node : Node) :
    Outcome.failure? (node.result input origin).outcome =
      node.preorder.findSome? (Node.failure? input) := by
  have h : firstFailure (node.calls input) = Outcome.failure? (node.made input origin) :=
    node.firstFailure_calls fun level _ => level.firstFailure_calls
  rw [Node.made, Outcome.failure?_map] at h
  rw [← firstFailure_eq_findSome?]
  exact h.symm

theorem Node.entries_result (node : Node) :
    (node.result input origin).entries = .strategyApplied node.target node.kind ::
      (node.strategy.result input origin node.target).entries := by
  obtain ⟨target, fragment, strategy⟩ := node
  rw [Node.result, Journal.entries_bind]
  rfl

theorem outputOfNodes_announces {nodes : List Node}
    (each : ∀ node ∈ nodes, Announces input node.preorder (node.result input origin))
    (output : Fields) :
    Announces input (nodes.flatMap Node.preorder) (outputOfNodes input origin nodes output) := by
  induction nodes generalizing output with
  | nil => exact .of_silent rfl
  | cons node rest ih =>
    obtain ⟨head, tail⟩ := List.forall_mem_cons.mp each
    rw [List.flatMap_cons, outputOfNodes]
    refine head.bind node.findSome?_failure? fun result => ?_
    by_cases hs : result.isSuppressed = true
    · rw [if_pos hs]
      exact (Announces.of_silent rfl).bind rfl fun _ => ih tail output
    · rw [if_neg hs]
      exact ih tail _

theorem elements_announces {levels : List Level}
    (each : ∀ level ∈ levels, Announces input level.preorder (level.output input origin))
    (target : String) (index : Nat) :
    Announces input (levels.flatMap Level.preorder) (elements input origin target index levels) := by
  induction levels generalizing index with
  | nil => exact .of_silent rfl
  | cons level rest ih =>
    obtain ⟨head, tail⟩ := List.forall_mem_cons.mp each
    rw [List.flatMap_cons, elements]
    refine head.bind level.findSome?_failure? fun fields => ?_
    by_cases hf : fields.isEmpty = true
    · rw [if_pos hf]
      exact (Announces.of_silent rfl).bind rfl fun _ => ih tail (index + 1)
    · rw [if_neg hf]
      exact (ih tail (index + 1)).andPure _

/-- A node is announced before all that is announced below it. -/
theorem Node.announces {node : Node}
    (each : ∀ level ∈ node.strategy.levels,
      Announces input level.preorder (level.output input origin)) :
    Announces input node.preorder (node.result input origin) := by
  -- Only a node without levels makes a call, so a failing call leaves out no node below it.
  have own {below : List Node} (quiet : node.failure? input = none ∨ below = [])
      (h : Announces input below (node.strategy.result input origin node.target)) :
      Announces input (node :: below) (node.result input origin) := by
    rw [Announces] at h ⊢
    rw [node.entries_result, List.filterMap_cons, h, reached]
    rcases quiet with hn | rfl
    · rw [hn]
      rfl
    · cases (node.failure? input).isNone <;> rfl
  rw [Node.preorder_eq]
  obtain ⟨target, fragment, strategy⟩ := node
  cases strategy with
  | copy source => exact own (.inr rfl) rfl
  | lookup source transform => exact own (.inr rfl) rfl
  | functionOfField source transform => exact own (.inr rfl) rfl
  | functionOfInput transform => exact own (.inr rfl) rfl
  | nestedObject level =>
    have hl : Announces input level.preorder (level.output input origin) :=
      each level (List.mem_singleton_self level)
    refine own (.inl rfl) ?_
    rw [Node.strategy, Strategy.levels, List.flatMap_singleton, ← List.append_nil level.preorder,
      Strategy.result]
    refine hl.bind level.findSome?_failure? fun fields => ?_
    by_cases hf : fields.isEmpty = true
    · rw [if_pos hf]
      exact .of_silent rfl
    · rw [if_neg hf]
      exact .of_silent rfl
  | nestedArray levels =>
    refine own (.inl rfl) ?_
    rw [Node.strategy, Strategy.result]
    exact (elements_announces each target 0).andPure _

/-- Whatever comes of it, a plan announces the nodes that are reached, in pre-order. -/
theorem Level.announces (level : Level) :
    Announces input level.preorder (level.output input origin) := by
  induction level using Level.induction with
  | mk constants nodes ih =>
    have h := outputOfNodes_announces (fun node hn => Node.announces (ih node hn)) []
    rw [Level.preorder_eq, Level.output]
    exact h.andPure _

end Announcing

/-- Does a node end in null or the empty text? -/
def Node.endsBlank (input : Value) (origin : String) (node : Node) : Bool :=
  match (node.result input origin).outcome with
  | .ok .null | .ok (.text "") => true
  | _ => false

/-- Does a level come out without a field? -/
def Level.endsEmpty (input : Value) (origin : String) (level : Level) : Bool :=
  match (level.output input origin).outcome with
  | .ok [] => true
  | _ => false

/-- The events of an array account for its entries. Behind those of an entry it is noted that the
entry is dropped, if it is, by its index. Each entry either is dropped, because it came out empty, or
became the element at its place among those that did. -/
structure AccountsEntries (input : Value) (origin : String) (node : Node) (levels : List Level)
    (dropped kept : List Nat) (made : List Value) : Prop where
  events : (node.result input origin).entries = .strategyApplied node.target node.kind ::
    levels.zipIdx.flatMap fun entry => (entry.1.output input origin).entries ++
      if entry.2 ∈ dropped then [.elementDropped node.target entry.2] else []
  parts : (dropped ++ kept).Perm (List.range levels.length)
  empty : ∀ index ∈ dropped, ∃ level, levels[index]? = some level ∧ level.endsEmpty input origin
  ascending : kept.Pairwise (· < ·)
  elements : List.Forall₂ (fun index element => ∃ level fields, levels[index]? = some level ∧
    (level.output input origin).outcome = .ok fields ∧ fields ≠ [] ∧
    element = stamped origin fields) kept made

/-- The events of a level account for its nodes: behind those of each node it is noted that the
result is left out, exactly if it is null or the empty text. Those of a node begin with its
announcement, and go on with those of its levels. -/
structure Level.Accounted (input : Value) (origin : String) (level : Level) : Prop where
  results : (level.output input origin).entries = level.nodes.flatMap fun node =>
    (node.result input origin).entries ++
      if node.endsBlank input origin then [.resultSuppressed node.target] else []
  leaves : ∀ node ∈ level.nodes, node.kind ≠ .nestedObject → node.kind ≠ .nestedArray →
    (node.result input origin).entries = [.strategyApplied node.target node.kind]
  objects : ∀ node ∈ level.nodes, ∀ inner, node.strategy = .nestedObject inner →
    (node.result input origin).entries = .strategyApplied node.target node.kind ::
      (inner.output input origin).entries ++
        if inner.endsEmpty input origin then [.objectSuppressed node.target] else []
  arrays : ∀ node ∈ level.nodes, ∀ levels, node.strategy = .nestedArray levels →
    ∃ dropped kept made, (node.result input origin).outcome = .ok (.list made) ∧
      AccountsEntries input origin node levels dropped kept made

section Accounting

variable {input : Value} {origin : String}

theorem Node.endsBlank_eq {node : Node} {value : Value}
    (h : (node.result input origin).outcome = .ok value) :
    node.endsBlank input origin = value.isSuppressed := by
  unfold Node.endsBlank Value.isSuppressed
  rw [h]
  cases value with
  | text s =>
    by_cases hs : s = ""
    · subst hs; rfl
    · simp [hs]
  | _ => rfl

theorem Level.endsEmpty_eq {level : Level} {fields : Fields}
    (h : (level.output input origin).outcome = .ok fields) :
    level.endsEmpty input origin = fields.isEmpty := by
  unfold Level.endsEmpty
  rw [h]
  cases fields <;> rfl

theorem entries_outputOfNodes {nodes : List Node} {output made : Fields}
    (h : (outputOfNodes input origin nodes output).outcome = .ok made) :
    (outputOfNodes input origin nodes output).entries = nodes.flatMap fun node =>
      (node.result input origin).entries ++
        if node.endsBlank input origin then [.resultSuppressed node.target] else [] := by
  induction nodes generalizing output with
  | nil => rfl
  | cons node rest ih =>
    rw [outputOfNodes, Journal.outcome_bind, Outcome.bind_eq_ok] at h
    obtain ⟨result, hr, h⟩ := h
    rw [outputOfNodes, Journal.entries_bind_ok hr, List.flatMap_cons, node.endsBlank_eq hr]
    by_cases hs : result.isSuppressed = true
    · rw [if_pos hs] at h ⊢
      have hi := ih h
      simp [hs, Journal.entries_bind, hi]
    · rw [if_neg hs] at h ⊢
      have hi := ih h
      simp [hs, hi]

/-- An entry of an array becomes an element: it is at its place among the entries and came out with
fields, and the element is these fields with the origin. -/
def BecomesElement (input : Value) (origin : String) (entries : List (Level × Nat))
    (entry : Level × Nat) (element : Value) : Prop :=
  entry ∈ entries ∧ ∃ fields, (entry.1.output input origin).outcome = .ok fields ∧ fields ≠ [] ∧
    element = stamped origin fields

theorem entries_elements {target : String} {levels : List Level} {index : Nat} {made : List Value}
    (h : (elements input origin target index levels).outcome = .ok made) :
    (elements input origin target index levels).entries = (levels.zipIdx index).flatMap fun entry =>
      (entry.1.output input origin).entries ++
        if entry.1.endsEmpty input origin then [.elementDropped target entry.2] else [] := by
  induction levels generalizing index made with
  | nil => rfl
  | cons level rest ih =>
    rw [elements, Journal.outcome_bind, Outcome.bind_eq_ok] at h
    obtain ⟨fields, hl, h⟩ := h
    rw [elements, Journal.entries_bind_ok hl, List.zipIdx_cons, List.flatMap_cons,
      level.endsEmpty_eq hl]
    by_cases hf : fields.isEmpty = true
    · rw [if_pos hf] at h ⊢
      have hi := ih h
      simp [hf, Journal.entries_bind, hi]
    · rw [if_neg hf, Journal.outcome_bind, Outcome.bind_eq_ok] at h
      obtain ⟨others, ho, -⟩ := h
      have hi := ih ho
      simp [hf, hi]

theorem elements_kept {target : String} {levels : List Level} {index : Nat} {made : List Value}
    (h : (elements input origin target index levels).outcome = .ok made) :
    List.Forall₂ (BecomesElement input origin (levels.zipIdx index))
      ((levels.zipIdx index).filter fun entry => !entry.1.endsEmpty input origin) made := by
  rw [outcome_elements, Outcome.map_eq_ok] at h
  obtain ⟨outputs, ho, rfl⟩ := h
  induction levels generalizing index outputs with
  | nil =>
    cases ho
    exact .nil
  | cons level rest ih =>
    obtain ⟨fields, others, hl, hr, rfl⟩ := Outcome.mapM_cons_eq_ok.mp ho
    have tail : List.Forall₂
        (BecomesElement input origin ((level, index) :: rest.zipIdx (index + 1)))
        ((rest.zipIdx (index + 1)).filter fun entry => !entry.1.endsEmpty input origin)
        (survivors origin others) :=
      (ih others hr).imp fun entry element hb =>
        ⟨List.mem_cons_of_mem (level, index) hb.1, hb.2⟩
    rw [List.zipIdx_cons, List.filter_cons, level.endsEmpty_eq hl, survivors_cons]
    cases fields with
    | nil => exact tail
    | cons field fields =>
      exact .cons ⟨List.mem_cons_self, _, hl, List.cons_ne_nil _ _, rfl⟩ tail

/-- The indices of the entries that satisfy a test. -/
def indicesWhere (test : Level → Bool) (levels : List Level) : List Nat :=
  (levels.zipIdx.filter fun entry => test entry.1).map (·.2)

theorem mem_indicesWhere {test : Level → Bool} {levels : List Level} {index : Nat} :
    index ∈ indicesWhere test levels ↔ ∃ level, levels[index]? = some level ∧ test level = true := by
  simp only [indicesWhere, List.mem_map, List.mem_filter, List.mem_zipIdx_iff_getElem?]
  constructor
  · rintro ⟨⟨level, _⟩, ⟨hl, ht⟩, rfl⟩
    exact ⟨level, hl, ht⟩
  · rintro ⟨level, hl, ht⟩
    exact ⟨(level, index), ⟨hl, ht⟩, rfl⟩

/-- The indices of the entries that pass a test and those of the others are all indices. -/
theorem indicesWhere_append_perm (test : Level → Bool) (levels : List Level) :
    (indicesWhere test levels ++ indicesWhere (fun level => !test level) levels).Perm
      (List.range levels.length) := by
  have hp := (List.filter_append_perm (fun entry : Level × Nat => test entry.1) levels.zipIdx).map
    Prod.snd
  rw [List.map_append, List.zipIdx_map_snd, ← List.range_eq_range'] at hp
  exact hp

theorem indicesWhere_pairwise (test : Level → Bool) (levels : List Level) :
    (indicesWhere test levels).Pairwise (· < ·) := by
  have hs := (List.filter_sublist (l := levels.zipIdx)
    (p := fun entry => test entry.1)).map Prod.snd
  rw [List.zipIdx_map_snd] at hs
  exact List.Pairwise.sublist hs List.pairwise_lt_range'

theorem accountsEntries {node : Node} {levels : List Level} {made : List Value}
    (hs : node.strategy = .nestedArray levels)
    (h : (node.result input origin).outcome = .ok (.list made)) :
    AccountsEntries input origin node levels (indicesWhere (Level.endsEmpty input origin) levels)
      (indicesWhere (fun level => !level.endsEmpty input origin) levels) made := by
  rw [Node.outcome_result, hs, Strategy.result, bind_pure_comp, Journal.outcome_map,
    Outcome.map_eq_ok] at h
  obtain ⟨made', he, hm⟩ := h
  cases hm
  constructor
  · rw [node.entries_result, hs, Strategy.result, bind_pure_comp, Journal.entries_map,
      entries_elements he]
    refine congrArg _ (List.flatMap_congr fun entry hin => ?_)
    have hi : entry.2 ∈ indicesWhere (Level.endsEmpty input origin) levels ↔
        entry.1.endsEmpty input origin = true := by
      rw [mem_indicesWhere, List.mem_zipIdx_iff_getElem?.mp hin]
      simp
    simp only [hi]
  · exact indicesWhere_append_perm _ levels
  · exact fun index hin => mem_indicesWhere.mp hin
  · exact indicesWhere_pairwise _ levels
  · rw [indicesWhere, List.forall₂_map_left_iff]
    refine (elements_kept he).imp fun entry element hb => ?_
    obtain ⟨hin, fields, hf⟩ := hb
    exact ⟨entry.1, fields, List.mem_zipIdx_iff_getElem?.mp hin, hf⟩

theorem Level.exists_result {level : Level} {made : Fields}
    (h : (level.output input origin).outcome = .ok made) {node : Node} (hn : node ∈ level.nodes) :
    ∃ value, (node.result input origin).outcome = .ok value := by
  rw [Level.outcome_output, Outcome.map_eq_ok] at h
  obtain ⟨results, hr, -⟩ := h
  obtain ⟨result, -, hm⟩ := Outcome.exists_result_of_mem hr hn
  rw [Node.made, Outcome.map_eq_ok] at hm
  obtain ⟨value, hv, -⟩ := hm
  exact ⟨value, hv⟩

theorem entries_result_nestedObject {node : Node} {inner : Level} {value : Value}
    (hs : node.strategy = .nestedObject inner)
    (h : (node.result input origin).outcome = .ok value) :
    (node.result input origin).entries = .strategyApplied node.target node.kind ::
      (inner.output input origin).entries ++
        if inner.endsEmpty input origin then [.objectSuppressed node.target] else [] := by
  rw [Node.outcome_result, hs, outcome_result_nestedObject, Outcome.map_eq_ok] at h
  obtain ⟨fields, hf, -⟩ := h
  rw [node.entries_result, hs, Strategy.result, Journal.entries_bind_ok hf, inner.endsEmpty_eq hf]
  cases fields <;> rfl

/-- Every level that comes to an end is accounted for. -/
theorem Level.accounted {level : Level} {made : Fields}
    (h : (level.output input origin).outcome = .ok made) : level.Accounted input origin := by
  constructor
  · obtain ⟨constants, nodes⟩ := level
    rw [Level.output, bind_pure_comp, Journal.outcome_map, Outcome.map_eq_ok] at h
    obtain ⟨output, ho, -⟩ := h
    rw [Level.output, bind_pure_comp, Journal.entries_map, entries_outputOfNodes ho, Level.nodes]
  · intro node _ ho ha
    rw [node.entries_result]
    obtain ⟨target, fragment, strategy⟩ := node
    cases strategy with
    | nestedObject inner => exact absurd rfl ho
    | nestedArray levels => exact absurd rfl ha
    | _ => rfl
  · intro node hn inner hs
    obtain ⟨value, hv⟩ := Level.exists_result h hn
    exact entries_result_nestedObject hs hv
  · intro node hn levels hs
    obtain ⟨value, hv⟩ := Level.exists_result h hn
    obtain ⟨made, rfl⟩ : ∃ made, value = .list made := by
      rw [Node.outcome_result, hs, outcome_result_nestedArray, Outcome.map_eq_ok] at hv
      obtain ⟨outputs, -, rfl⟩ := hv
      exact ⟨_, rfl⟩
    exact ⟨_, _, made, hv, accountsEntries hs hv⟩

/-- A level is evaluated to its end, and its events are a stretch of these. -/
def Level.Evaluated (input : Value) (origin : String) (events : List Event) (level : Level) : Prop :=
  (∃ made, (level.output input origin).outcome = .ok made) ∧
    (level.output input origin).entries <:+: events

theorem infix_flatMap {α β : Type} {f : α → List β} {as : List α} {a : α} {part : List β}
    (ha : a ∈ as) (hp : part <:+: f a) : part <:+: as.flatMap f :=
  hp.trans (List.infix_of_mem_flatten (List.mem_map_of_mem ha))

theorem Level.evaluated_below {level : Level} {made : Fields}
    (h : (level.output input origin).outcome = .ok made) {node : Node} (hn : node ∈ level.nodes)
    {inner : Level} (hi : inner ∈ node.strategy.levels) :
    inner.Evaluated input origin (level.output input origin).entries := by
  obtain ⟨value, hv⟩ := Level.exists_result h hn
  have hnode : (node.result input origin).entries <:+: (level.output input origin).entries := by
    rw [(Level.accounted h).results]
    exact infix_flatMap hn (List.prefix_append _ _).isInfix
  have hstrategy := (node.outcome_result input origin).symm.trans hv
  cases hs : node.strategy with
  | nestedObject only =>
    rw [hs] at hi hstrategy
    cases List.mem_singleton.mp hi
    rw [outcome_result_nestedObject, Outcome.map_eq_ok] at hstrategy
    obtain ⟨fields, hf, -⟩ := hstrategy
    have he : (inner.output input origin).entries <:+: (node.result input origin).entries := by
      rw [entries_result_nestedObject hs hv]
      exact ⟨[_], _, rfl⟩
    exact ⟨⟨fields, hf⟩, he.trans hnode⟩
  | nestedArray levels =>
    rw [hs] at hi hstrategy
    rw [outcome_result_nestedArray, Outcome.map_eq_ok] at hstrategy
    obtain ⟨outputs, ho, rfl⟩ := hstrategy
    obtain ⟨fields, -, hf⟩ := Outcome.exists_result_of_mem ho hi
    obtain ⟨index, hlt, hget⟩ := List.getElem_of_mem hi
    have hz : (inner, index) ∈ levels.zipIdx :=
      List.mem_zipIdx_iff_getElem?.mpr (List.getElem?_eq_some_iff.mpr ⟨hlt, hget⟩)
    have he : (inner.output input origin).entries <:+: (node.result input origin).entries := by
      rw [(accountsEntries hs hv).events]
      exact (infix_flatMap hz (List.prefix_append _ _).isInfix).trans
        (List.suffix_cons _ _).isInfix
    exact ⟨⟨fields, hf⟩, he.trans hnode⟩
  | _ =>
    rw [hs] at hi
    cases hi

/-- When a plan is applied with success, every level of it is evaluated to its end. -/
theorem Level.evaluated_all (plan : Level) {made : Fields}
    (h : (plan.output input origin).outcome = .ok made) :
    ∀ level ∈ plan.all, level.Evaluated input origin (plan.output input origin).entries := by
  induction plan using Level.induction generalizing made with
  | mk constants nodes ih =>
    refine Level.forall_mem_all.mpr ⟨⟨⟨made, h⟩, List.infix_rfl⟩, fun node hn inner hi => ?_⟩
    obtain ⟨⟨fields, hf⟩, he⟩ := Level.evaluated_below h hn hi
    exact fun level hl => (ih node hn inner hi hf level hl).imp id fun hx => hx.trans he

end Accounting

theorem Level.entries_apply (plan : Level) (input : Value) (origin : String) :
    (plan.apply input origin).entries = (plan.output input origin).entries := by
  rw [Level.apply, bind_pure_comp, Journal.entries_map]

theorem Node.failure?_eq_none_iff {input : Value} {node : Node} :
    node.failure? input = none ↔ ∀ call, node.call? input = some call → call.Succeeds := by
  rw [Node.failure?, Option.bind_eq_none_iff]
  simp only [Outcome.failure?_eq_none_iff, Call.Succeeds]

theorem Node.failure?_eq_some_iff {input : Value} {node : Node} {e : Error} :
    node.failure? input = some e ↔
      ∃ call, node.call? input = some call ∧ call.result = .error e := by
  rw [Node.failure?, Option.bind_eq_some_iff]
  simp only [Outcome.failure?_eq_some_iff]

/-- The events of an application account for every node. If it succeeds, each node is announced
once, in pre-order, whatever the input and the origin are, and every level is evaluated and accounted
for. If it fails, the nodes announced are those up to the one whose call fails. -/
theorem apply_accounts_for_nodes (plan : Level) (input : Value) (origin : String) :
    (∀ out, (plan.apply input origin).outcome = .ok out →
      (plan.apply input origin).entries.filterMap Event.applied? =
        plan.preorder.map Node.caption ∧
      ((plan.apply input origin).entries.filterMap Event.applied?).length = plan.nodeCount ∧
      ∀ level ∈ plan.all, level.Evaluated input origin (plan.apply input origin).entries ∧
        level.Accounted input origin) ∧
    ∀ e, (plan.apply input origin).outcome = .error e →
      ∃ before node after call, plan.preorder = before ++ node :: after ∧
        (plan.apply input origin).entries.filterMap Event.applied? =
          (before ++ [node]).map Node.caption ∧
        (∀ earlier ∈ before, ∀ other, earlier.call? input = some other → other.Succeeds) ∧
        node.call? input = some call ∧ call.result = .error e := by
  have ha : (plan.apply input origin).entries.filterMap Event.applied? =
      (reached input plan.preorder).map Node.caption := by
    rw [plan.entries_apply]
    exact plan.announces
  have hf : Outcome.failure? (plan.output input origin).outcome =
      plan.preorder.findSome? (Node.failure? input) :=
    plan.findSome?_failure?
  constructor
  · intro out ho
    rw [Level.outcome_apply, Outcome.map_eq_ok] at ho
    obtain ⟨made, hm, -⟩ := ho
    rw [hm, Outcome.failure?] at hf
    rw [reached_eq_self hf.symm] at ha
    refine ⟨ha, ?_, fun level hl => ?_⟩
    · rw [ha, List.length_map, plan.nodeCount_eq_length]
    · have he := plan.evaluated_all hm level hl
      obtain ⟨fields, hfields⟩ := he.1
      rw [plan.entries_apply]
      exact ⟨he, Level.accounted hfields⟩
  · intro e he
    rw [Level.outcome_apply, Outcome.map_eq_error] at he
    rw [he, Outcome.failure?, eq_comm, List.findSome?_eq_some_iff] at hf
    obtain ⟨before, node, after, hsplit, hn, hb⟩ := hf
    obtain ⟨call, hcall, hr⟩ := Node.failure?_eq_some_iff.mp hn
    refine ⟨before, node, after, call, hsplit, ?_, fun earlier hin => ?_, hcall, hr⟩
    · rw [ha, hsplit, reached_of_split hb hn]
    · exact Node.failure?_eq_none_iff.mp (hb earlier hin)

section Crate

/-- A crate has a label, parts of two kinds and a place. -/
def cratePlan : Level := .mk []
  [.mk "label" .empty (.copy ⟨"name", .empty⟩),
    .mk "parts" .empty (.nestedArray
      [.mk [] [.mk "note" .empty (.copy ⟨"remark", .empty⟩)],
        .mk [] [.mk "code" .empty (.lookup ⟨"number", .empty⟩ (.lookup "code" [("7", "G")]))]]),
    .mk "place" .empty (.nestedObject
      (.mk [("country", "DE")] [.mk "city" .empty (.copy ⟨"town", .empty⟩)]))]

def crateEvents : List Event :=
  [.strategyApplied "label" .copy, .resultSuppressed "label",
    .strategyApplied "parts" .nestedArray, .strategyApplied "note" .copy, .resultSuppressed "note",
    .elementDropped "parts" 0, .strategyApplied "code" .lookup,
    .strategyApplied "place" .nestedObject, .strategyApplied "city" .copy, .resultSuppressed "city",
    .objectSuppressed "place", .resultSuppressed "place"]

/-- With a known number only the second part is left of a crate; an unknown one ends the application
before its place. -/
theorem apply_accounts_for_nodes_crate :
    (cratePlan.apply (.object [("name", " "), ("number", "7")]) "erp").entries = crateEvents ∧
    crateEvents.filterMap Event.applied? = cratePlan.preorder.map Node.caption ∧
    (crateEvents.filterMap Event.applied?).length = 6 ∧
    (∀ level ∈ cratePlan.all,
      level.Accounted (.object [("name", " "), ("number", "7")]) "erp") ∧
    (cratePlan.apply (.object [("number", "8")]) "erp").outcome =
      .error (.unknownLookupValue "8" "code") ∧
    ∃ before node after, cratePlan.preorder = before ++ node :: after ∧
      (cratePlan.apply (.object [("number", "8")]) "erp").entries.filterMap Event.applied? =
        (before ++ [node]).map Node.caption := by
  obtain ⟨out, ho⟩ :
      ∃ out, (cratePlan.apply (.object [("name", " "), ("number", "7")]) "erp").outcome = .ok out :=
    ⟨_, rfl⟩
  have he : (cratePlan.apply (.object [("name", " "), ("number", "7")]) "erp").entries =
    crateEvents := by decide
  obtain ⟨hall, hcount, hlevels⟩ :=
    (apply_accounts_for_nodes cratePlan (.object [("name", " "), ("number", "7")]) "erp").1 out ho
  have hfail : (cratePlan.apply (.object [("number", "8")]) "erp").outcome =
    .error (.unknownLookupValue "8" "code") := rfl
  obtain ⟨before, node, after, -, hsplit, hreached, -⟩ :=
    (apply_accounts_for_nodes cratePlan (.object [("number", "8")]) "erp").2 _ hfail
  rw [he] at hall hcount
  exact ⟨he, hall, hcount, fun level hl => (hlevels level hl).2, hfail, before, node, after, hsplit,
    hreached⟩

end Crate

end Reshape
