import Reshape.Proofs.Plan.Key

/-!
# How a level is composed

The whole output of a level, in order: what its nodes showed, each target where it first was shown
with what was shown last, and behind that the constants whose keys are free. Targets may recur and
may be keys of constants; nothing is assumed of them. What makes a node show nothing is not said
here.
-/
namespace Reshape

/-- What the nodes of a level make of an input, each under its target. -/
def Level.Makes (input : Value) (origin : String) (level : Level)
    (results : List (String × Value)) : Prop :=
  List.Forall₂ (fun node result => result.1 = node.target ∧
    (node.result input origin).outcome = .ok result.2) level.nodes results

/-- The results that are neither null nor the empty text. -/
def shown (results : List (String × Value)) : List (String × Value) :=
  results.filter fun result => ¬ result.2.Blank

/-- How an output is composed of what was shown and of constants. The first of two equal keys in a
list is the one that counts for a constant, and the last one for what was shown. -/
structure Composed (constants shown output : Fields) : Prop where
  empty : output = [] ↔ shown = []
  parts : shown ≠ [] → ∃ front back : Fields, output = front ++ back ∧
    front.keys = shown.keys.eraseDups ∧
    (∀ entry ∈ front, Fields.get? shown.reverse entry.1 = some entry.2) ∧
    back.keys = (constants.keys.filter fun key => key ∉ shown.keys).eraseDups ∧
    ∀ entry ∈ back, constants.get? entry.1 = some entry.2

variable {input : Value} {origin : String}

theorem makes_iff {level : Level} {results : List (String × Value)} :
    level.Makes input origin results ↔
      level.nodes.mapM (Node.made input origin) = .ok results := by
  simp only [Level.Makes, Outcome.mapM_eq_ok, made_eq_ok, Node.outcome_result]

theorem shown_eq_written (results : List (String × Value)) : shown results = written results := by
  refine List.filter_congr fun result _ => ?_
  by_cases h : result.2.Blank
  · simp [h, isSuppressed_eq_true_iff.mpr h]
  · simp [h, isSuppressed_eq_false_iff.mpr h]

theorem mem_shown {results : List (String × Value)} {result : String × Value} :
    result ∈ shown results ↔ result ∈ results ∧ ¬ result.2.Blank := by
  rw [shown, List.mem_filter, decide_eq_true_iff]

section Constants

/-- Constants that are put in go behind what is there, each by the first of its values. -/
theorem exists_foldl_insertNew_eq_append (constants : Fields) {fields : Fields}
    (distinct : fields.keys.Nodup) :
    ∃ back : Fields,
      constants.foldl (fun fields e => fields.insertNew e.1 e.2) fields = fields ++ back ∧
      back.keys = (constants.keys.filter fun key => key ∉ fields.keys).eraseDups ∧
      ∀ entry ∈ back, constants.get? entry.1 = some entry.2 := by
  obtain ⟨back, hb⟩ := Fields.exists_foldl_insertNew constants fields
  have hn : Fields.keys (fields ++ back) |>.Nodup := hb ▸ Fields.nodup_foldl_insertNew distinct
  refine ⟨back, hb, ?_, fun entry he => ?_⟩
  · have hk := Fields.keys_foldl_insertNew constants fields
    rw [hb, Fields.keys, List.map_append] at hk
    exact List.append_cancel_left hk
  · have hf : entry.1 ∉ fields.keys := by
      rw [Fields.keys, List.map_append, List.nodup_append'] at hn
      exact fun hm => hn.2.2 hm (List.mem_map_of_mem he)
    have hg : Fields.get? (fields ++ back) entry.1 = some entry.2 :=
      Fields.get?_eq_some_of_mem hn (List.mem_append_right fields he)
    rw [← hb, Fields.get?_foldl_insertNew, Fields.get?_eq_none_iff.mpr hf, Option.none_or] at hg
    exact hg

end Constants

section Assembly

variable {constants : Fields} {results : List (String × Value)}

/-- What was shown stands in front: every target once, with the last of its values. -/
theorem ofList_shown_front (results : List (String × Value)) :
    (Fields.ofList (shown results)).keys = (Fields.keys (shown results)).eraseDups ∧
    ∀ entry ∈ Fields.ofList (shown results),
      Fields.get? (shown results).reverse entry.1 = some entry.2 := by
  refine ⟨Fields.keys_ofList _, fun entry he => ?_⟩
  rw [← Fields.get?_ofList]
  exact Fields.get?_eq_some_of_mem Fields.nodup_ofList he

theorem assembled_eq_nil_iff : assembled constants results = [] ↔ shown results = [] := by
  rw [← List.isEmpty_iff, ← List.isEmpty_iff, assembled, isEmpty_withConstants,
    Fields.isEmpty_ofList, shown_eq_written]

theorem composed_assembled : Composed constants (shown results) (assembled constants results) := by
  refine ⟨assembled_eq_nil_iff, fun hs => ?_⟩
  obtain ⟨hk, hv⟩ := ofList_shown_front results
  obtain ⟨back, hb, hbk, hbv⟩ :=
    exists_foldl_insertNew_eq_append constants (@Fields.nodup_ofList (shown results))
  have he : (Fields.ofList (shown results)).isEmpty = false := by
    rw [Fields.isEmpty_ofList, List.isEmpty_eq_false_iff]
    exact hs
  refine ⟨Fields.ofList (shown results), back, ?_, hk, hv, ?_, hbv⟩
  · rw [assembled, ← shown_eq_written, withConstants, he, if_neg Bool.false_ne_true, hb]
  · simpa only [hk, List.mem_eraseDups] using hbk

/-- A member under a target that was shown is something that was shown, not a constant. -/
theorem mem_shown_of_mem_assembled {entry : String × Value}
    (h : entry ∈ assembled constants results) (ht : entry.1 ∈ Fields.keys (shown results)) :
    entry ∈ shown results := by
  have hg := Fields.get?_eq_some_of_mem (nodup_assembled constants results) h
  rw [assembled, ← shown_eq_written, get?_withConstants] at hg
  have hm : entry.1 ∈ (Fields.ofList (shown results)).keys := by
    rw [Fields.keys_ofList, List.mem_eraseDups]
    exact ht
  cases hf : (Fields.ofList (shown results)).get? entry.1 with
  | none => exact absurd hm (Fields.get?_eq_none_iff.mp hf)
  | some value =>
    rw [hf, Option.some_or] at hg
    cases hg
    exact Fields.mem_ofList (Fields.mem_of_get?_eq_some hf)

/-- Under the target of something that was shown stands something that was shown. -/
theorem exists_mem_assembled (constants : Fields) {result : String × Value}
    (h : result ∈ shown results) :
    ∃ entry ∈ assembled constants results, entry.1 = result.1 ∧ entry ∈ shown results := by
  have hc : Composed constants (shown results) (assembled constants results) := composed_assembled
  obtain ⟨front, back, ho, hk, -⟩ := hc.parts (List.ne_nil_of_mem h)
  have hkey : result.1 ∈ front.keys := by
    rw [hk, List.mem_eraseDups]
    exact List.mem_map_of_mem h
  obtain ⟨entry, he, hek⟩ := List.mem_map.mp hkey
  have hm : entry ∈ assembled constants results := ho ▸ List.mem_append_left back he
  refine ⟨entry, hm, hek, mem_shown_of_mem_assembled hm ?_⟩
  rw [hek]
  exact List.mem_map_of_mem h

end Assembly

variable {level : Level} {results : List (String × Value)}

theorem Level.Makes.outcome_output (h : level.Makes input origin results) :
    (level.output input origin).outcome = .ok (assembled level.constants results) := by
  rw [Level.outcome_output, makes_iff.mp h]
  rfl

/-- A level that has an output was assembled from what its nodes made. -/
theorem Level.exists_makes {output : Fields}
    (h : (level.output input origin).outcome = .ok output) :
    ∃ results, level.Makes input origin results ∧ output = assembled level.constants results := by
  rw [Level.outcome_output, Outcome.map_eq_ok] at h
  obtain ⟨results, hr, rfl⟩ := h
  exact ⟨results, makes_iff.mpr hr, rfl⟩

theorem Level.Makes.exists_node (h : level.Makes input origin results) {result : String × Value}
    (hm : result ∈ results) : ∃ node ∈ level.nodes, node.target = result.1 ∧
      (node.result input origin).outcome = .ok result.2 := by
  obtain ⟨node, hn, hd⟩ := Outcome.exists_member_of_result (makes_iff.mp h) hm
  obtain ⟨ht, hv⟩ := made_eq_ok.mp hd
  exact ⟨node, hn, ht.symm, Node.outcome_result input origin node ▸ hv⟩

/-- If all nodes of a level make something of an input then so does the level. It comes out empty
exactly if nothing was shown. Otherwise it has the targets of what was shown, in the order in which
these come first and each with what comes last, and behind them the constants of all other keys. So
what stands under such a target is something that was shown, and no constant; whatever is not null or
the empty text is shown, also where it is zero, false or an empty container; and no constant stands
without anything that was shown. -/
theorem output_composed (made : level.Makes input origin results) :
    ∃ output, (level.output input origin).outcome = .ok output ∧
      Composed level.constants (shown results) output ∧
      (∀ entry ∈ output, entry.1 ∈ Fields.keys (shown results) →
        entry ∈ results ∧ entry.2 ≠ .null ∧ entry.2 ≠ .text "") ∧
      (∀ result ∈ results, result.2 ≠ .null → result.2 ≠ .text "" → result.1 ∈ output.keys) ∧
      (∀ result ∈ results, result.2 ∈ [Value.int 0, .bool false, .list [], .object []] →
        result ∈ shown results) ∧
      (output ≠ [] → ∃ entry ∈ output, entry ∈ shown results) := by
  have ho := made.outcome_output
  have hc : Composed level.constants (shown results) (assembled level.constants results) :=
    composed_assembled
  refine ⟨_, ho, hc, fun entry he ht => ?_, fun result hm hn ht => ?_, fun result hm hv => ?_,
    fun hne => ?_⟩
  · obtain ⟨hm, hb⟩ := mem_shown.mp (mem_shown_of_mem_assembled he ht)
    exact ⟨hm, not_or.mp hb⟩
  · obtain ⟨node, hin, htarget, hv⟩ := made.exists_node hm
    have hs : result.2.isSuppressed = false := isSuppressed_eq_false_iff.mpr (not_or.mpr ⟨hn, ht⟩)
    exact (mem_keys_output ho).mpr (Or.inl ⟨node, hin, htarget, result.2, hv, hs⟩)
  · refine mem_shown.mpr ⟨hm, isSuppressed_eq_false_iff.mp ?_⟩
    simp only [List.mem_cons, List.not_mem_nil, or_false] at hv
    rcases hv with hv | hv | hv | hv <;> rw [hv] <;> rfl
  · obtain ⟨result, hr⟩ := List.exists_mem_of_ne_nil _ (mt hc.empty.mpr hne)
    obtain ⟨entry, he, -, hs⟩ := exists_mem_assembled level.constants hr
    exact ⟨entry, he, hs⟩

section Ticket

/-- A level that writes its first target again later and writes the key of a constant. -/
def ticketLevel : Level := .mk [("seat", "any"), ("note", .null), ("gate", "A")]
  [.mk "name" .empty (.copy ⟨"given", .empty⟩), .mk "seat" .empty (.copy ⟨"row", .empty⟩),
    .mk "name" .empty (.copy ⟨"family", .empty⟩), .mk "name" .empty (.copy ⟨"title", .empty⟩)]

def ticketInput : Value :=
  .object [("given", "Ada"), ("row", .int 0), ("family", "King"), ("title", "  ")]

def ticketResults : List (String × Value) :=
  [("name", "Ada"), ("seat", .int 0), ("name", "King"), ("name", "")]

def ticketOutput : Fields :=
  [("name", "King"), ("seat", .int 0), ("note", .null), ("gate", "A")]

/-- The last name that is not empty stands in the place of the first; the seat is zero. -/
theorem output_composed_ticket :
    ticketLevel.Makes ticketInput "erp" ticketResults ∧
    (ticketLevel.output ticketInput "erp").outcome = .ok ticketOutput ∧
    Composed ticketLevel.constants (shown ticketResults) ticketOutput := by
  have made : ticketLevel.Makes ticketInput "erp" ticketResults :=
    .cons ⟨rfl, rfl⟩ (.cons ⟨rfl, rfl⟩ (.cons ⟨rfl, rfl⟩ (.cons ⟨rfl, rfl⟩ .nil)))
  have hout : (ticketLevel.output ticketInput "erp").outcome = .ok ticketOutput := rfl
  obtain ⟨output, ho, hc, -⟩ := output_composed made
  rw [hout] at ho
  cases ho
  exact ⟨made, hout, hc⟩

end Ticket

end Reshape
