import Reshape.Proofs.Plan.Assembly
import Reshape.Proofs.Plan.Reordering

/-!
# Outputs up to the order of keys

What reordered plans make of one input: the same fields, in another order. Only the objects that a
plan puts together itself may differ in their order, that is its output, its nested objects and the
elements of its nested arrays; values that come from the input, a transform or a constant are equal.
Which failure ends an application depends on the order and is not compared.
-/
namespace Reshape

mutual

/-- Two outputs of a level are equal as maps. -/
inductive AlikeFields : Level → Fields → Fields → Prop where
  | mk {constants fields middle fields' : Fields} {nodes : List Node}
      (distinct : fields.keys.Nodup) (each : AlikeEntries nodes fields middle)
      (order : middle.Perm fields') :
      AlikeFields (.mk constants nodes) fields fields'

/-- Fields stand in the same order, and each is the same or made by one of the nodes. -/
inductive AlikeEntries : List Node → Fields → Fields → Prop where
  | nil {nodes : List Node} : AlikeEntries nodes [] []
  | same {nodes : List Node} {entry : String × Value} {fields fields' : Fields}
      (tail : AlikeEntries nodes fields fields') :
      AlikeEntries nodes (entry :: fields) (entry :: fields')
  | built {nodes : List Node} {node : Node} {value value' : Value} {fields fields' : Fields}
      (given : node ∈ nodes) (head : AlikeValue node.strategy value value')
      (tail : AlikeEntries nodes fields fields') :
      AlikeEntries nodes ((node.target, value) :: fields) ((node.target, value') :: fields')

/-- Two values that one nested strategy made. -/
inductive AlikeValue : Strategy → Value → Value → Prop where
  | object {level : Level} {fields fields' : Fields} (inner : AlikeFields level fields fields') :
      AlikeValue (.nestedObject level) (.object fields) (.object fields')
  | array {levels : List Level} {items items' : List Value}
      (each : AlikeElements levels items items') :
      AlikeValue (.nestedArray levels) (.list items) (.list items')

/-- Elements are compared place by place. A level makes at most one element. -/
inductive AlikeElements : List Level → List Value → List Value → Prop where
  | nil : AlikeElements [] [] []
  | dropped {level : Level} {levels : List Level} {items items' : List Value}
      (tail : AlikeElements levels items items') : AlikeElements (level :: levels) items items'
  | cons {level : Level} {levels : List Level} {fields fields' : Fields} {items items' : List Value}
      (head : AlikeFields level fields fields') (tail : AlikeElements levels items items') :
      AlikeElements (level :: levels) (.object fields :: items) (.object fields' :: items')

end

section Entries

variable {nodes : List Node} {fields fields' : Fields}

theorem AlikeValue.isSuppressed {strategy : Strategy} {value value' : Value}
    (h : AlikeValue strategy value value') :
    value.isSuppressed = false ∧ value'.isSuppressed = false := by
  cases h with
  | object _ => exact ⟨rfl, rfl⟩
  | array _ => exact ⟨rfl, rfl⟩

namespace AlikeEntries

/-- Induction along the entries, which leaves aside what nested values look like. -/
@[elab_as_elim]
theorem entryInduction {motive : ∀ fields fields', AlikeEntries nodes fields fields' → Prop}
    (nil : motive [] [] .nil)
    (same : ∀ (entry : String × Value) {fields fields' : Fields}
      (tail : AlikeEntries nodes fields fields'), motive fields fields' tail →
        motive (entry :: fields) (entry :: fields') (.same tail))
    (built : ∀ {node : Node} {value value' : Value} {fields fields' : Fields} (given : node ∈ nodes)
      (head : AlikeValue node.strategy value value') (tail : AlikeEntries nodes fields fields'),
        motive fields fields' tail →
          motive ((node.target, value) :: fields) ((node.target, value') :: fields')
            (.built given head tail))
    {fields fields' : Fields} (h : AlikeEntries nodes fields fields') : motive fields fields' h := by
  induction fields generalizing fields' with
  | nil => cases h; exact nil
  | cons entry fields ih =>
    cases h with
    | same tail => exact same entry tail (ih tail)
    | built given head tail => exact built given head tail (ih tail)

theorem keys_eq (h : AlikeEntries nodes fields fields') : fields.keys = fields'.keys := by
  induction h using entryInduction with
  | nil => rfl
  | same entry _ ih => exact congrArg (entry.1 :: ·) ih
  | built _ _ _ ih => exact congrArg (_ :: ·) ih

theorem nodup (h : AlikeEntries nodes fields fields') (hd : fields.keys.Nodup) :
    fields'.keys.Nodup :=
  h.keys_eq ▸ hd

theorem isEmpty_eq (h : AlikeEntries nodes fields fields') : fields.isEmpty = fields'.isEmpty := by
  cases h <;> rfl

theorem mono {nodes' : List Node} (h : AlikeEntries nodes fields fields')
    (hn : ∀ node ∈ nodes, node ∈ nodes') : AlikeEntries nodes' fields fields' := by
  induction h using entryInduction with
  | nil => exact .nil
  | same _ _ ih => exact .same ih
  | built given head _ ih => exact .built (hn _ given) head ih

/-- What a nested node made is written on both sides, since it is no text and not null. -/
theorem written (h : AlikeEntries nodes fields fields') :
    AlikeEntries nodes (written fields) (written fields') := by
  unfold Reshape.written
  induction h using entryInduction with
  | nil => exact .nil
  | same entry _ ih =>
    rw [List.filter_cons, List.filter_cons]
    split
    · exact .same ih
    · exact ih
  | built given head _ ih =>
    obtain ⟨hv, hv'⟩ := head.isSuppressed
    rw [List.filter_cons_of_pos (by rw [hv]; rfl), List.filter_cons_of_pos (by rw [hv']; rfl)]
    exact .built given head ih

theorem refl (nodes : List Node) (fields : Fields) : AlikeEntries nodes fields fields := by
  induction fields with
  | nil => exact .nil
  | cons entry fields ih => exact .same ih

theorem append (h : AlikeEntries nodes fields fields') (more : Fields) :
    AlikeEntries nodes (fields ++ more) (fields' ++ more) := by
  induction h using entryInduction with
  | nil => exact .refl nodes more
  | same _ _ ih => exact .same ih
  | built given head _ ih => exact .built given head ih

theorem insert (h : AlikeEntries nodes fields fields') (name : String) (new : Value) :
    AlikeEntries nodes (fields.insert name new) (fields'.insert name new) := by
  induction h using entryInduction with
  | nil => exact .same .nil
  | same entry tail ih =>
    obtain ⟨key, value⟩ := entry
    rw [Fields.insert, Fields.insert]
    split
    · exact .same tail
    · exact .same ih
  | built given head tail ih =>
    rw [Fields.insert, Fields.insert]
    split
    · exact .same tail
    · exact .built given head ih

end AlikeEntries

namespace AlikeFields

variable {level : Level}

theorem isEmpty_eq (h : AlikeFields level fields fields') : fields.isEmpty = fields'.isEmpty := by
  obtain ⟨distinct, each, order⟩ := h
  rw [each.isEmpty_eq, order.isEmpty_eq]

/-- Elements are alike when the fields were to which the origin is added. -/
theorem stamp (h : AlikeFields level fields fields') (origin : String) :
    AlikeFields level (fields.insert originKey (.text origin))
      (fields'.insert originKey (.text origin)) := by
  obtain ⟨distinct, each, order⟩ := h
  have hp := Fields.insert_perm order (each.nodup distinct) originKey (.text origin)
  exact .mk (Fields.nodup_insert distinct) (each.insert _ _) hp

end AlikeFields

end Entries

section Assembly

variable {constants : Fields} {results : List (String × Value)}

/-- Without a key that recurs, a level has what was written, and then its constants. -/
theorem assembled_of_nodup (h : Fields.keys (results ++ constants) |>.Nodup) :
    assembled constants results =
      if (written results).isEmpty then [] else written results ++ constants := by
  have hs : (written results ++ constants).Sublist (results ++ constants) :=
    List.filter_sublist.append_right constants
  have hn : Fields.keys (written results ++ constants) |>.Nodup := (hs.map _).nodup h
  have hw : Fields.keys (written results) |>.Nodup :=
    ((List.sublist_append_left _ _).map _).nodup hn
  rw [assembled, Fields.ofList_eq_self hw, withConstants, Fields.foldl_insertNew_eq_append hn]
  split
  · rename_i he
    exact List.isEmpty_iff.mp he
  · rfl

variable {input : Value} {origin : String}

/-- Levels that differ in the order of their results and constants are assembled alike, if no key
recurs in them. -/
theorem alikeFields_assembled {constants' : Fields} {middle results' : List (String × Value)}
    {nodes : List Node} (hn : Fields.keys (results ++ constants) |>.Nodup)
    (each : AlikeEntries nodes results middle) (order : middle.Perm results')
    (constantOrder : constants.Perm constants') :
    AlikeFields (.mk constants nodes) (assembled constants results)
      (assembled constants' results') := by
  have hd := nodup_assembled constants results
  have hp : (middle ++ constants).Perm (results' ++ constants') := order.append constantOrder
  have hn' : Fields.keys (results' ++ constants') |>.Nodup :=
    (hp.map _).nodup ((each.append constants).nodup hn)
  have hw : (written middle).Perm (written results') := order.filter _
  rw [assembled_of_nodup hn] at hd ⊢
  rw [assembled_of_nodup hn', ← hw.isEmpty_eq, ← each.written.isEmpty_eq]
  cases he : (written results).isEmpty with
  | true => exact .mk List.nodup_nil .nil (List.Perm.refl _)
  | false =>
    rw [he] at hd
    exact .mk hd (each.written.append constants) (hw.append constantOrder)

end Assembly

section Output

variable {input : Value} {origin : String}

mutual

/-- If a level has an output then the reordered level has an output that is equal as a map. -/
theorem ReorderedLevel.output : ∀ {level level' : Level} {fields : Fields},
    ReorderedLevel level level' → (level.output input origin).outcome = .ok fields →
      ∃ fields', (level'.output input origin).outcome = .ok fields' ∧
        AlikeFields level fields fields'
  | .mk constants nodes, .mk constants' nodes', _,
      .mk targets distinct fresh each order constantOrder, h => by
    rw [Level.outcome_output] at h
    obtain ⟨results, hr, rfl⟩ := Outcome.map_eq_ok.mp h
    obtain ⟨middle, hm, hv⟩ := each.made hr
    obtain ⟨results', hr', hp⟩ := Outcome.mapM_perm order hm
    -- a key is a target or a constant's, and neither recurs: nothing is overwritten on either side
    have hn : Fields.keys (results ++ constants) |>.Nodup := by
      rw [Fields.keys, List.map_append, List.nodup_append']
      have hk : results.map Prod.fst = nodes.map Node.target := keys_of_made hr
      refine ⟨hk ▸ targets, distinct, fun key hl hc => ?_⟩
      obtain ⟨node, hin, rfl⟩ := List.mem_map.mp (hk ▸ hl)
      exact fresh node hin hc
    refine ⟨_, ?_, alikeFields_assembled hn hv hp constantOrder⟩
    rw [Level.outcome_output]
    exact Outcome.map_eq_ok.mpr ⟨results', hr', rfl⟩

theorem ReorderedNodes.made : ∀ {nodes nodes' : List Node} {results : List (String × Value)},
    ReorderedNodes nodes nodes' → nodes.mapM (Node.made input origin) = .ok results →
      ∃ results', nodes'.mapM (Node.made input origin) = .ok results' ∧
        AlikeEntries nodes results results'
  | _, _, _, .nil, h => by
    cases h
    exact ⟨[], rfl, .nil⟩
  | .mk target fragment strategy :: nodes, .mk _ _ strategy' :: nodes', _, .cons head tail, h => by
    obtain ⟨⟨key, value⟩, results, hd, hs, rfl⟩ := Outcome.mapM_cons_eq_ok.mp h
    obtain ⟨hk, hv⟩ := made_eq_ok.mp hd
    obtain rfl : target = key := hk.symm
    obtain ⟨value', hv', ha⟩ := head.result hv
    obtain ⟨results', hs', hr⟩ := tail.made hs
    have hd' : (Node.mk target fragment strategy').made input origin = .ok (target, value') :=
      made_eq_ok.mpr ⟨rfl, hv'⟩
    refine ⟨_, Outcome.mapM_cons_eq_ok.mpr ⟨_, results', hd', hs', rfl⟩, ?_⟩
    have hr := hr.mono fun _ => List.mem_cons_of_mem (Node.mk target fragment strategy)
    rcases ha with rfl | ha
    · exact .same hr
    · exact .built List.mem_cons_self ha hr

theorem ReorderedStrategy.result {target : String} : ∀ {strategy strategy' : Strategy}
    {value : Value}, ReorderedStrategy strategy strategy' →
      (strategy.result input origin target).outcome = .ok value →
        ∃ value', (strategy'.result input origin target).outcome = .ok value' ∧
          (value = value' ∨ AlikeValue strategy value value')
  | _, _, value, .kept, h => ⟨value, h, Or.inl rfl⟩
  | _, _, _, .object inner, h => by
    rw [outcome_result_nestedObject] at h ⊢
    obtain ⟨fields, hf, rfl⟩ := Outcome.map_eq_ok.mp h
    obtain ⟨fields', hf', ha⟩ := inner.output hf
    refine ⟨_, Outcome.map_eq_ok.mpr ⟨fields', hf', rfl⟩, ?_⟩
    rw [← ha.isEmpty_eq]
    split
    · exact Or.inl rfl
    · exact Or.inr (.object ha)
  | _, _, _, .array each, h => by
    rw [outcome_result_nestedArray] at h ⊢
    obtain ⟨outputs, ho, rfl⟩ := Outcome.map_eq_ok.mp h
    obtain ⟨outputs', ho', ha⟩ := each.survivors ho
    exact ⟨_, Outcome.map_eq_ok.mpr ⟨outputs', ho', rfl⟩, Or.inr (.array ha)⟩

theorem ReorderedLevels.survivors : ∀ {levels levels' : List Level} {outputs : List Fields},
    ReorderedLevels levels levels' →
      (levels.mapM fun level => (level.output input origin).outcome) = .ok outputs →
        ∃ outputs', (levels'.mapM fun level => (level.output input origin).outcome) = .ok outputs' ∧
          AlikeElements levels (survivors origin outputs) (survivors origin outputs')
  | _, _, _, .nil, h => by
    cases h
    exact ⟨[], rfl, .nil⟩
  | _, _, _, .cons head tail, h => by
    obtain ⟨fields, outputs, hf, ho, rfl⟩ := Outcome.mapM_cons_eq_ok.mp h
    obtain ⟨fields', hf', ha⟩ := head.output hf
    obtain ⟨outputs', ho', he⟩ := tail.survivors ho
    refine ⟨_, Outcome.mapM_cons_eq_ok.mpr ⟨fields', outputs', hf', ho', rfl⟩, ?_⟩
    -- both elements are dropped or both stay, so the places of the later ones agree
    rw [survivors_cons, survivors_cons, ← ha.isEmpty_eq]
    split
    · exact .dropped he
    · exact .cons (ha.stamp origin) he

end

end Output

section Plans

variable {definition definition' : Definition} {plan plan' : Level} {input made : Value}
  {origin : String}

/-- If a plan can be applied then the reordered plan can, to an output that is equal as a map. -/
theorem ReorderedLevel.apply (h : ReorderedLevel plan plan')
    (hm : (plan.apply input origin).outcome = .ok made) :
    ∃ made' fields fields', (plan'.apply input origin).outcome = .ok made' ∧
      made = .object fields ∧ made' = .object fields' ∧ AlikeFields plan fields fields' := by
  rw [Level.outcome_apply] at hm
  obtain ⟨fields, hf, rfl⟩ := Outcome.map_eq_ok.mp hm
  obtain ⟨fields', hf', ha⟩ := h.output hf
  refine ⟨.object fields', fields, fields', ?_, rfl, rfl, ha⟩
  rw [Level.outcome_apply]
  exact Outcome.map_eq_ok.mpr ⟨fields', hf', rfl⟩

theorem Reordered.plans (h : Reordered definition definition') {scope : Scope} {output : Fragment}
    (hp : (scope.build definition output).outcome = .ok plan)
    (hp' : (scope.build definition' output).outcome = .ok plan') : ReorderedLevel plan plan' := by
  obtain ⟨built, hb, hr⟩ := h.build hp
  rw [hp'] at hb
  cases hb
  exact hr

/-- The order of declarations decides nothing but the order of keys. Reordered definitions are built
both or neither, whatever the schemas and the resolvers are; and their plans can be applied to an
input both or neither, to outputs that are equal as maps on every level that the plan has. -/
theorem build_and_apply_of_reordered (h : Reordered definition definition') (scope : Scope)
    (output : Fragment) :
    ((∃ plan, (scope.build definition output).outcome = .ok plan) ↔
      ∃ plan', (scope.build definition' output).outcome = .ok plan') ∧
    ∀ plan plan', (scope.build definition output).outcome = .ok plan →
      (scope.build definition' output).outcome = .ok plan' → ∀ (input : Value) (origin : String),
        ((∃ made, (plan.apply input origin).outcome = .ok made) ↔
          ∃ made', (plan'.apply input origin).outcome = .ok made') ∧
        ∀ made made', (plan.apply input origin).outcome = .ok made →
          (plan'.apply input origin).outcome = .ok made' →
            ∃ fields fields', made = .object fields ∧ made' = .object fields' ∧
              AlikeFields plan fields fields' := by
  refine ⟨⟨fun ⟨plan, hp⟩ => ?_, fun ⟨plan', hp'⟩ => ?_⟩, fun plan plan' hp hp' input origin =>
    ⟨⟨fun ⟨made, hm⟩ => ?_, fun ⟨made', hm'⟩ => ?_⟩, fun made made' hm hm' => ?_⟩⟩
  · obtain ⟨plan', hp', -⟩ := h.build hp
    exact ⟨plan', hp'⟩
  · obtain ⟨plan, hp, -⟩ := h.symm.build hp'
    exact ⟨plan, hp⟩
  · obtain ⟨made', -, -, hm', -⟩ := (h.plans hp hp').apply hm
    exact ⟨made', hm'⟩
  · obtain ⟨made, -, -, hm, -⟩ := (h.symm.plans hp' hp).apply hm'
    exact ⟨made, hm⟩
  · obtain ⟨made'', fields, fields', hm'', hf, hf', ha⟩ := (h.plans hp hp').apply hm
    rw [hm'] at hm''
    cases hm''
    exact ⟨fields, fields', hf, hf', ha⟩

section Parcel

/-- A parcel with a person and two lines, each with a constant; the second line may come out empty. -/
def parcelDefinition : Definition := .level [("kind", "parcel"), ("unit", "kg")]
  [("weight", .copy "w"),
    ("person", .nested (.single (.level [] [("name", .copy "n"), ("mail", .copy "m")]))),
    ("lines", .nested (.many
      [.level [("no", .int 1)] [("item", .copy "a"), ("note", .copy "n")],
        .level [("no", .int 2)] [("item", .copy "b")]]))]

/-- Reordered on the top level, in the person and in the first line. -/
def parcelReordered : Definition := .level [("unit", "kg"), ("kind", "parcel")]
  [("lines", .nested (.many
      [.level [("no", .int 1)] [("note", .copy "n"), ("item", .copy "a")],
        .level [("no", .int 2)] [("item", .copy "b")]])),
    ("weight", .copy "w"),
    ("person", .nested (.single (.level [] [("mail", .copy "m"), ("name", .copy "n")])))]

def parcelInput : Fragment :=
  ⟨none, ["w", "n", "m", "a", "b"].map fun name => (name, .object []), none⟩

def parcelOutput : Fragment where
  kind := none
  properties :=
    [("weight", .object []),
      ("person", .object
        [("type", "object"),
          ("properties", .object [("name", .object []), ("mail", .object [])])]),
      ("lines", .object
        [("type", "array"),
          ("items", .object
            [("properties", .object [("item", .object []), ("note", .object [])])])])]
  items := none

def parcelData : Value :=
  .object [("w", .int 3), ("n", "Ada"), ("m", "a@x"), ("a", "ink"), ("b", " ")]

/-- The second line is dropped by both plans; the keys of every other object change places. -/
theorem build_and_apply_of_reordered_parcel :
    Reordered parcelDefinition parcelReordered ∧
    ∃ (plan plan' : Level) (fields fields' : Fields),
      (Scope.build ⟨parcelInput, .unconfigured, .unconfigured⟩ parcelDefinition
        parcelOutput).outcome = .ok plan ∧
      (Scope.build ⟨parcelInput, .unconfigured, .unconfigured⟩ parcelReordered
        parcelOutput).outcome = .ok plan' ∧
      (plan.apply parcelData "erp").outcome = .ok (.object fields) ∧
      (plan'.apply parcelData "erp").outcome = .ok (.object fields') ∧
      fields.keys = ["weight", "person", "lines", "kind", "unit"] ∧
      fields'.keys = ["lines", "weight", "person", "unit", "kind"] ∧
      AlikeFields plan fields fields' := by
  have hperson : Reordered (.level [] [("name", .copy "n"), ("mail", .copy "m")])
      (.level [] [("mail", .copy "m"), ("name", .copy "n")]) :=
    .level (by decide) (by decide) (.cons .kept (.cons .kept .nil)) (.swap _ _ _) (.refl _)
  have hline : Reordered (.level [("no", .int 1)] [("item", .copy "a"), ("note", .copy "n")])
      (.level [("no", .int 1)] [("note", .copy "n"), ("item", .copy "a")]) :=
    .level (by decide) (by decide) (.cons .kept (.cons .kept .nil)) (.swap _ _ _) (.refl _)
  have hlast : Reordered (.level [("no", .int 2)] [("item", .copy "b")])
      (.level [("no", .int 2)] [("item", .copy "b")]) :=
    .level (by decide) (by decide) (.cons .kept .nil) (.refl _) (.refl _)
  have h : Reordered parcelDefinition parcelReordered :=
    .level (by decide) (by decide)
      (.cons .kept (.cons (.single hperson)
        (.cons (.many (.cons hline (.cons hlast .nil))) .nil)))
      ((List.Perm.swap _ _ _).cons _ |>.trans (.swap _ _ _)) (.swap _ _ _)
  obtain ⟨plan, fields, hp, hm, hk⟩ : ∃ (plan : Level) (fields : Fields),
      (Scope.build ⟨parcelInput, .unconfigured, .unconfigured⟩ parcelDefinition
        parcelOutput).outcome = .ok plan ∧
      (plan.apply parcelData "erp").outcome = .ok (.object fields) ∧
      fields.keys = ["weight", "person", "lines", "kind", "unit"] := ⟨_, _, rfl, rfl, rfl⟩
  obtain ⟨plan', fields', hp', hm', hk'⟩ : ∃ (plan' : Level) (fields' : Fields),
      (Scope.build ⟨parcelInput, .unconfigured, .unconfigured⟩ parcelReordered
        parcelOutput).outcome = .ok plan' ∧
      (plan'.apply parcelData "erp").outcome = .ok (.object fields') ∧
      fields'.keys = ["lines", "weight", "person", "unit", "kind"] := ⟨_, _, rfl, rfl, rfl⟩
  obtain ⟨-, hs⟩ := build_and_apply_of_reordered h ⟨parcelInput, .unconfigured, .unconfigured⟩
    parcelOutput
  obtain ⟨-, ha⟩ := hs plan plan' hp hp' parcelData "erp"
  obtain ⟨made, made', he, he', halike⟩ := ha _ _ hm hm'
  cases he
  cases he'
  exact ⟨h, plan, plan', fields, fields', hp, hp', hm, hm', hk, hk', halike⟩

end Parcel

end Plans

end Reshape
