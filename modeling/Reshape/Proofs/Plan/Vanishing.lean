import Reshape.Proofs.Plan.Key

/-!
# Levels that vanish

When a level has no output at all, said of its nodes and of the levels of its nested objects, at any
depth, without running it. A nested array keeps its level from vanishing, since it is written even
where it has no elements. Constants have no part in the condition, and neither has the origin.
-/
namespace Reshape

/-- A source is missing, null, or a text of which trimming leaves nothing. -/
def Binding.Blank (source : Binding) (input : Value) : Prop :=
  input.get? source.name = none ∨ input.get? source.name = some .null ∨
    ∃ s, input.get? source.name = some (.text s) ∧ ∀ c ∈ s.toList, Text.isTextSpace c = true

mutual

/-- All nodes of a level vanish. -/
inductive Level.Vanishes (input : Value) : Level → Prop where
  | mk {constants : Fields} {nodes : List Node}
      (each : ∀ node ∈ nodes, Strategy.Vanishes input node.strategy) :
      Level.Vanishes input (.mk constants nodes)

/-- A source is blank, a transform returns null or the empty text, or the level of a nested object
vanishes. A nested array never vanishes. -/
inductive Strategy.Vanishes (input : Value) : Strategy → Prop where
  | copy {source : Binding} (blank : source.Blank input) : Strategy.Vanishes input (.copy source)
  | lookup {source : Binding} {transform : Transform} {value : Value}
      (returned : transform.call (source.read input) = .ok value) (blank : value.Blank) :
      Strategy.Vanishes input (.lookup source transform)
  | functionOfField {source : Binding} {transform : Transform} {value : Value}
      (returned : transform.call (source.read input) = .ok value) (blank : value.Blank) :
      Strategy.Vanishes input (.functionOfField source transform)
  | functionOfInput {transform : Transform} {value : Value}
      (returned : transform.call input = .ok value) (blank : value.Blank) :
      Strategy.Vanishes input (.functionOfInput transform)
  | nestedObject {level : Level} (inner : Level.Vanishes input level) :
      Strategy.Vanishes input (.nestedObject level)

end

variable {input : Value} {origin : String}

theorem blank_read_iff {source : Binding} : (source.read input).Blank ↔ source.Blank input := by
  unfold Binding.Blank Binding.read
  cases input.get? source.name with
  | none => simp [Value.Blank]
  | some value => cases value <;> simp [Value.Blank, Text.trim_eq_empty_iff]

theorem Level.vanishes_iff {level : Level} :
    level.Vanishes input ↔ ∀ node ∈ level.nodes, node.strategy.Vanishes input := by
  obtain ⟨constants, nodes⟩ := level
  exact ⟨fun ⟨each⟩ => each, .mk⟩

theorem Strategy.vanishes_nestedObject_iff {level : Level} :
    (Strategy.nestedObject level).Vanishes input ↔ level.Vanishes input :=
  ⟨fun (.nestedObject inner) => inner, .nestedObject⟩

theorem blank_of_eq_ok {x : Except Error Value} {value other : Value} (h : x = .ok value)
    (ho : x = .ok other) (blank : other.Blank) : value.Blank := by
  rw [h] at ho
  cases ho
  exact blank

theorem exists_fields_of_nestedObject {target : String} {level : Level} {value : Value}
    (h : ((Strategy.nestedObject level).result input origin target).outcome = .ok value) :
    ∃ fields, (level.output input origin).outcome = .ok fields ∧ (value.Blank ↔ fields = []) ∧
      (value = .null ↔ fields = []) := by
  rw [outcome_result_nestedObject, Outcome.map_eq_ok] at h
  obtain ⟨fields, hf, rfl⟩ := h
  refine ⟨fields, hf, ?_⟩
  cases fields <;> simp [Value.Blank]

/-- What a strategy makes is left out exactly if the strategy vanishes, if it is so for the levels
below it that they come out empty exactly if they vanish. -/
theorem Strategy.blank_iff_vanishes {strategy : Strategy} {target : String} {value : Value}
    (below : ∀ level ∈ strategy.levels, ∀ fields,
      (level.output input origin).outcome = .ok fields → (fields = [] ↔ level.Vanishes input))
    (h : (strategy.result input origin target).outcome = .ok value) :
    value.Blank ↔ strategy.Vanishes input := by
  cases strategy with
  | copy source =>
    rw [outcome_result_copy] at h
    cases h
    rw [blank_read_iff]
    exact ⟨.copy, fun (.copy blank) => blank⟩
  | lookup source transform =>
    rw [outcome_result_lookup] at h
    exact ⟨.lookup h,
      fun (.lookup returned blank) => blank_of_eq_ok h returned blank⟩
  | functionOfField source transform =>
    rw [outcome_result_functionOfField] at h
    exact ⟨.functionOfField h,
      fun (.functionOfField returned blank) => blank_of_eq_ok h returned blank⟩
  | functionOfInput transform =>
    rw [outcome_result_functionOfInput] at h
    exact ⟨.functionOfInput h,
      fun (.functionOfInput returned blank) => blank_of_eq_ok h returned blank⟩
  | nestedObject level =>
    obtain ⟨fields, hf, hb, -⟩ := exists_fields_of_nestedObject h
    rw [hb, below level (List.mem_singleton_self level) fields hf,
      Strategy.vanishes_nestedObject_iff]
  | nestedArray levels =>
    -- A list is never left out, whether it has elements or not.
    rw [outcome_result_nestedArray, Outcome.map_eq_ok] at h
    obtain ⟨_, -, rfl⟩ := h
    constructor
    · rintro (hb | hb) <;> cases hb
    · rintro ⟨⟩

theorem exists_result_of_output {level : Level} {output : Fields}
    (h : (level.output input origin).outcome = .ok output) {node : Node} (hn : node ∈ level.nodes) :
    ∃ value, (node.result input origin).outcome = .ok value := by
  rw [Level.outcome_output, Outcome.map_eq_ok] at h
  obtain ⟨results, hr, -⟩ := h
  obtain ⟨result, -, hd⟩ := Outcome.exists_result_of_mem hr hn
  exact ⟨result.2, Node.outcome_result input origin node ▸ (made_eq_ok.mp hd).2⟩

theorem output_eq_nil_iff_forall_blank {level : Level} {output : Fields}
    (h : (level.output input origin).outcome = .ok output) :
    output = [] ↔ ∀ node ∈ level.nodes, ∀ value,
      (node.result input origin).outcome = .ok value → value.Blank := by
  rw [← List.isEmpty_iff, ← Bool.not_eq_false, isEmpty_output h]
  simp only [isSuppressed_eq_false_iff]
  grind

/-- A level that has an output comes out empty exactly if it vanishes. -/
theorem Level.output_eq_nil_iff (level : Level) : ∀ {output : Fields},
    (level.output input origin).outcome = .ok output → (output = [] ↔ level.Vanishes input) := by
  induction level using Level.induction with
  | mk constants nodes ih =>
    intro output h
    rw [output_eq_nil_iff_forall_blank h, Level.vanishes_iff]
    refine forall₂_congr fun node hn => ?_
    have each {value : Value} (hv : (node.result input origin).outcome = .ok value) :
        value.Blank ↔ node.strategy.Vanishes input :=
      Strategy.blank_iff_vanishes (fun level hl _ => ih node hn level hl)
        (Node.outcome_result input origin node ▸ hv)
    obtain ⟨value, hv⟩ := exists_result_of_output h hn
    exact ⟨fun blank => (each hv).mp (blank value hv), fun hs _ hv' => (each hv').mpr hs⟩

theorem Node.blank_iff_vanishes {node : Node} {value : Value}
    (h : (node.result input origin).outcome = .ok value) :
    value.Blank ↔ node.strategy.Vanishes input :=
  Strategy.blank_iff_vanishes (fun level _ _ => level.output_eq_nil_iff)
    (Node.outcome_result input origin node ▸ h)

section Output

variable {level : Level} {output : Fields}

theorem not_mem_keys_output_iff (h : (level.output input origin).outcome = .ok output)
    {key : String} : key ∉ output.keys ↔
      (∀ node ∈ level.nodes, node.target = key → node.strategy.Vanishes input) ∧
        (output = [] ∨ key ∉ level.constants.keys) := by
  have made : (∃ node ∈ level.nodes, node.target = key ∧ ∃ value,
      (node.result input origin).outcome = .ok value ∧ value.isSuppressed = false) ↔
      ∃ node ∈ level.nodes, node.target = key ∧ ¬ node.strategy.Vanishes input := by
    refine exists_congr fun node => and_congr_right fun hn => and_congr_right fun _ => ?_
    obtain ⟨value, hv⟩ := exists_result_of_output h hn
    have hb : value.isSuppressed = false ↔ ¬ node.strategy.Vanishes input := by
      rw [isSuppressed_eq_false_iff, Node.blank_iff_vanishes hv]
    rw [← hb]
    constructor
    · rintro ⟨other, ho, hs⟩
      rw [hv] at ho
      cases ho
      exact hs
    · exact fun hs => ⟨value, hv, hs⟩
  rw [mem_keys_output h, made]
  grind

theorem result_eq_null_iff (h : (level.output input origin).outcome = .ok output) {node : Node}
    (given : node ∈ level.nodes) {inner : Level} (nested : node.strategy = .nestedObject inner) :
    (node.result input origin).outcome = .ok .null ↔ inner.Vanishes input := by
  obtain ⟨value, hv⟩ := exists_result_of_output h given
  have hr : ((Strategy.nestedObject inner).result input origin node.target).outcome = .ok value := by
    rw [← nested, ← Node.outcome_result, hv]
  obtain ⟨fields, hf, -, hn⟩ := exists_fields_of_nestedObject hr
  rw [hv, Except.ok.injEq, hn, inner.output_eq_nil_iff hf]

/-- A level comes out empty exactly if it vanishes. So a nested object is null exactly if its level
vanishes, and a key is missing exactly if all nodes that have it as their target vanish and no
constant that goes with the output has it. The field of a nested object that has its target for
itself is therefore missing exactly if the level of the object vanishes. -/
theorem output_eq_nil_iff_vanishes (made : (level.output input origin).outcome = .ok output) :
    (output = [] ↔ level.Vanishes input) ∧
    (∀ key, key ∉ output.keys ↔
      (∀ node ∈ level.nodes, node.target = key → node.strategy.Vanishes input) ∧
        (output = [] ∨ key ∉ level.constants.keys)) ∧
    ∀ node ∈ level.nodes, ∀ inner, node.strategy = .nestedObject inner →
      ((node.result input origin).outcome = .ok .null ↔ inner.Vanishes input) ∧
      ((∀ other ∈ level.nodes, other.target = node.target → other = node) →
        node.target ∉ level.constants.keys →
          (node.target ∉ output.keys ↔ inner.Vanishes input)) := by
  refine ⟨level.output_eq_nil_iff made, fun key => not_mem_keys_output_iff made,
    fun node given inner nested => ⟨result_eq_null_iff made given nested, fun sole free => ?_⟩⟩
  rw [not_mem_keys_output_iff made, ← Strategy.vanishes_nestedObject_iff, ← nested]
  constructor
  · rintro ⟨each, -⟩
    exact each node given rfl
  · intro hv
    refine ⟨fun other ho ht => ?_, Or.inr free⟩
    rw [sole other ho ht]
    exact hv

end Output

section Ferry

def ferryNote : Transform := .total "note" fun _ => ""

/-- Two levels deep, with constants on both. -/
def ferryDeck : Level := .mk [("kind", "deck")]
  [.mk "name" .empty (.copy ⟨"deck", .empty⟩),
    .mk "note" .empty (.functionOfField ⟨"deck", .empty⟩ ferryNote),
    .mk "cabin" .empty (.nestedObject (.mk [("beds", .int 2)]
      [.mk "no" .empty (.copy ⟨"cabin", .empty⟩), .mk "key" .empty (.copy ⟨"key", .empty⟩)]))]

def ferryCrew : Level := .mk [("kind", "crew")]
  [.mk "names" .empty (.nestedArray [.mk [] [.mk "name" .empty (.copy ⟨"mate", .empty⟩)]])]

def ferryLevel : Level := .mk [("line", "north")]
  [.mk "deck" .empty (.nestedObject ferryDeck), .mk "crew" .empty (.nestedObject ferryCrew)]

def ferryInput : Value := .object [("deck", "\uFEFF \t"), ("cabin", .null)]

def ferryOutput : Fields :=
  [("crew", .object [("names", .list []), ("kind", "crew")]), ("line", "north")]

/-- The deck vanishes with its cabin; the crew stays for the sake of an empty array. -/
theorem output_eq_nil_iff_vanishes_ferry :
    (ferryLevel.output ferryInput "erp").outcome = .ok ferryOutput ∧
    ¬ ferryLevel.Vanishes ferryInput ∧ ¬ ferryCrew.Vanishes ferryInput ∧
    ferryDeck.Vanishes ferryInput := by
  have made : (ferryLevel.output ferryInput "erp").outcome = .ok ferryOutput := rfl
  obtain ⟨empty, -, objects⟩ := output_eq_nil_iff_vanishes made
  obtain ⟨deckAt, rest⟩ := List.forall_mem_cons.mp objects
  obtain ⟨crewAt, -⟩ := List.forall_mem_cons.mp rest
  obtain ⟨-, deck⟩ := deckAt ferryDeck rfl
  obtain ⟨-, crew⟩ := crewAt ferryCrew rfl
  have deckIff := deck (by simp [ferryLevel, Level.nodes, Node.target]) (by decide)
  have crewIff := crew (by simp [ferryLevel, Level.nodes, Node.target]) (by decide)
  exact ⟨made, mt empty.mpr (List.cons_ne_nil _ _), mt crewIff.mpr (by decide),
    deckIff.mp (by decide)⟩

end Ferry

end Reshape
