import Reshape.Proofs.Plan.Assembly

/-!
# What stands under a key

The output of a level, key by key, where no target of the level occurs twice or is a constant: what
the one node of a target made, unless that is left out, and under every other key the constant of
the level, if anything was written at all. Nothing is said here about the order of the keys.
-/
namespace Reshape

/-- No target of a level occurs twice or is a constant as well. -/
structure Level.Distinct (level : Level) : Prop where
  targets : (level.nodes.map Node.target).Nodup
  fresh : ∀ node ∈ level.nodes, node.target ∉ level.constants.keys

theorem get?_withConstants (constants output : Fields) (key : String) :
    (withConstants constants output).get? key =
      (output.get? key).or (if output.isEmpty then none else constants.get? key) := by
  unfold withConstants
  by_cases he : output.isEmpty = true
  · rw [if_pos he, if_pos he, Option.or_none]
  · rw [if_neg he, if_neg he, Fields.get?_foldl_insertNew]

theorem isEmpty_withConstants (constants output : Fields) :
    (withConstants constants output).isEmpty = output.isEmpty := by
  cases output with
  | nil => rfl
  | cons entry rest =>
    have hg := get?_withConstants constants (entry :: rest) entry.1
    rw [Fields.get?_cons, if_pos rfl, Option.some_or] at hg
    cases hw : withConstants constants (entry :: rest) with
    | nil =>
      rw [hw] at hg
      cases hg
    | cons => rfl

section Output

variable {input : Value} {origin : String} {level : Level} {output : Fields}

/-- A level comes out empty unless one of its nodes has a result that is not left out. -/
theorem isEmpty_output (h : (level.output input origin).outcome = .ok output) :
    output.isEmpty = false ↔ ∃ node ∈ level.nodes, ∃ value,
      (node.result input origin).outcome = .ok value ∧ value.isSuppressed = false := by
  rw [Level.outcome_output, Outcome.map_eq_ok] at h
  obtain ⟨results, hr, rfl⟩ := h
  rw [assembled, isEmpty_withConstants, Fields.isEmpty_ofList, written, ← Bool.not_eq_true,
    List.isEmpty_iff, List.filter_eq_nil_iff]
  simp only [Bool.not_eq_true', Bool.not_eq_false, not_forall, exists_prop]
  constructor
  · rintro ⟨result, hm, hs⟩
    obtain ⟨node, hn, hd⟩ := Outcome.exists_member_of_result hr hm
    obtain ⟨-, hv⟩ := made_eq_ok.mp hd
    rw [← Node.outcome_result] at hv
    exact ⟨node, hn, result.2, hv, Bool.eq_false_iff.mpr hs⟩
  · rintro ⟨node, hn, value, hv, hs⟩
    obtain ⟨result, hm, hd⟩ := Outcome.exists_result_of_mem hr hn
    obtain ⟨-, hv'⟩ := made_eq_ok.mp hd
    rw [← Node.outcome_result, hv] at hv'
    cases hv'
    exact ⟨result, hm, Bool.not_eq_true _ ▸ hs⟩

/-- The keys of a level are the targets of its nodes whose results are not left out and, if there are
any, the keys of its constants. -/
theorem mem_keys_output (h : (level.output input origin).outcome = .ok output) {key : String} :
    key ∈ output.keys ↔
      (∃ node ∈ level.nodes, node.target = key ∧ ∃ value,
        (node.result input origin).outcome = .ok value ∧ value.isSuppressed = false) ∨
      output ≠ [] ∧ key ∈ level.constants.keys := by
  rw [Level.outcome_output, Outcome.map_eq_ok] at h
  obtain ⟨results, hr, rfl⟩ := h
  have hw : key ∈ (Fields.ofList (written results)).keys ↔
      ∃ node ∈ level.nodes, node.target = key ∧ ∃ value,
        (node.result input origin).outcome = .ok value ∧ value.isSuppressed = false := by
    rw [Fields.keys_ofList, List.mem_eraseDups, Fields.keys, List.mem_map]
    constructor
    · rintro ⟨result, hm, rfl⟩
      obtain ⟨hm, hs⟩ := List.mem_filter.mp hm
      obtain ⟨node, hn, hd⟩ := Outcome.exists_member_of_result hr hm
      obtain ⟨ht, hv⟩ := made_eq_ok.mp hd
      rw [← Node.outcome_result] at hv
      exact ⟨node, hn, ht.symm, result.2, hv, Bool.not_eq_true' _ ▸ hs⟩
    · rintro ⟨node, hn, rfl, value, hv, hs⟩
      have hd : node.made input origin = .ok (node.target, value) :=
        made_eq_ok.mpr ⟨rfl, node.outcome_result input origin ▸ hv⟩
      obtain ⟨result, hm, hd'⟩ := Outcome.exists_result_of_mem hr hn
      rw [hd] at hd'
      cases hd'
      exact ⟨_, List.mem_filter.mpr ⟨hm, by simp [hs]⟩, rfl⟩
  rw [← hw, assembled, ← List.isEmpty_eq_false_iff, isEmpty_withConstants]
  unfold withConstants
  cases he : (Fields.ofList (written results)).isEmpty with
  | true => simp
  | false =>
    rw [if_neg Bool.false_ne_true, Fields.keys_foldl_insertNew, List.mem_append,
      List.mem_eraseDups, List.mem_filter]
    by_cases hk : key ∈ (Fields.ofList (written results)).keys <;> simp [hk]

/-- Under the target of a node stands what this node made, unless that is left out. -/
theorem get?_output_target (hd : level.Distinct)
    (h : (level.output input origin).outcome = .ok output) {node : Node} (hn : node ∈ level.nodes) :
    ∃ value, (node.result input origin).outcome = .ok value ∧
      output.get? node.target = if value.isSuppressed then none else some value := by
  rw [Level.outcome_output, Outcome.map_eq_ok] at h
  obtain ⟨results, hr, rfl⟩ := h
  obtain ⟨⟨key, value⟩, hm, hmade⟩ := Outcome.exists_result_of_mem hr hn
  obtain ⟨hk, hv⟩ := made_eq_ok.mp hmade
  obtain rfl : key = node.target := hk
  have hkeys : Fields.keys results |>.Nodup := keys_of_made hr ▸ hd.targets
  have hwritten : Fields.keys (written results) |>.Nodup :=
    (List.filter_sublist.map Prod.fst).nodup hkeys
  have hc : level.constants.get? node.target = none :=
    Fields.get?_eq_none_iff.mpr (hd.fresh node hn)
  refine ⟨value, Node.outcome_result input origin node ▸ hv, ?_⟩
  rw [assembled, Fields.ofList_eq_self hwritten, get?_withConstants, hc, ite_self, Option.or_none]
  cases hs : value.isSuppressed with
  | true =>
    refine Fields.get?_eq_none_iff.mpr fun hk => ?_
    obtain ⟨⟨key, other⟩, ho, rfl⟩ := List.mem_map.mp hk
    obtain ⟨hor, hos⟩ := List.mem_filter.mp ho
    -- the key has one result, and this one is left out
    have hsame := Fields.get?_eq_some_of_mem hkeys hor
    rw [Fields.get?_eq_some_of_mem hkeys hm] at hsame
    cases hsame
    simp [hs] at hos
  | false => exact Fields.get?_eq_some_of_mem hwritten (List.mem_filter.mpr ⟨hm, by simp [hs]⟩)

/-- Under a key that is no target stands the constant of the level, if anything was written. -/
theorem get?_output_of_not_target (h : (level.output input origin).outcome = .ok output)
    {key : String} (hk : ∀ node ∈ level.nodes, node.target ≠ key) :
    output.get? key = if output.isEmpty then none else level.constants.get? key := by
  rw [Level.outcome_output, Outcome.map_eq_ok] at h
  obtain ⟨results, hr, rfl⟩ := h
  have hn : (Fields.ofList (written results)).get? key = none := by
    refine Fields.get?_eq_none_iff.mpr fun hm => ?_
    obtain ⟨result, hr', rfl⟩ := List.mem_map.mp hm
    have hmem : result ∈ results := List.mem_of_mem_filter (Fields.mem_ofList hr')
    obtain ⟨node, hin, hd⟩ := Outcome.exists_member_of_result hr hmem
    exact hk node hin (made_eq_ok.mp hd).1.symm
  rw [assembled, get?_withConstants, isEmpty_withConstants, hn, Option.none_or]

end Output
end Reshape
