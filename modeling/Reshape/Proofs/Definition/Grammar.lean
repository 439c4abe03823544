import Reshape.Definition.Reader
import Reshape.Proofs.Fields
import Reshape.Proofs.Outcome

/-!
# The values that read as definitions

The grammar of definitions, at every depth and without reference to the reader: which values are
accepted, and which definition a value denotes. Reading succeeds exactly on the accepted values, with
the one definition that they denote. A key whose value is null counts as absent, and keys that mean
nothing are passed over. Which fault is found in a value that is not accepted is not stated here.
-/
namespace Reshape.Definition

/-- A key is not there, or its value is null. -/
def Lacks (fields : Fields) (name : String) : Prop :=
  fields.get? name = none ∨ fields.get? name = some .null

/-- An optional text: absent, or a text. -/
inductive HoldsText (fields : Fields) (name : String) : Option String → Prop where
  | absent (lacks : Lacks fields name) : HoldsText fields name none
  | present {s : String} (given : fields.get? name = some (.text s)) :
      HoldsText fields name (some s)

/-- The constants of a level: absent, or an object. -/
inductive HoldsConstants (fields : Fields) : Fields → Prop where
  | absent (lacks : Lacks fields constantKey) : HoldsConstants fields []
  | present {constants : Fields} (given : fields.get? constantKey = some (.object constants)) :
      HoldsConstants fields constants

/-- The table of a lookup: a name, or the table itself. -/
inductive HoldsTable (parts : Fields) : TableRef → Prop where
  | named {name : String} (given : parts.get? "lookup" = some (.text name)) :
      HoldsTable parts (.named name)
  | inline {table : Fields} (given : parts.get? "lookup" = some (.object table)) :
      HoldsTable parts (.inline table)

mutual

/-- A level is accepted when each of its keys but the reserved one is no constant and has an accepted
rule. -/
inductive Accepted : Value → Prop where
  | object {fields constants : Fields} (given : HoldsConstants fields constants)
      (fresh : ∀ key value, (key, value) ∈ fields → key ≠ constantKey → key ∉ constants.keys)
      (each : ∀ key value, (key, value) ∈ fields → key ≠ constantKey → AcceptedRule value) :
      Accepted (.object fields)

/-- A rule is accepted when it is a nested body alone, a lookup with a source and no function, or a
source or a function or both. -/
inductive AcceptedRule : Value → Prop where
  | nested {parts : Fields} {body : Value} (source : Lacks parts "source")
      (function : Lacks parts "function") (lookup : Lacks parts "lookup")
      (given : parts.get? nestedKey = some body) (inner : AcceptedBody body) :
      AcceptedRule (.object parts)
  | lookup {parts : Fields} {name : String} {table : TableRef} (plain : Lacks parts nestedKey)
      (source : HoldsText parts "source" (some name)) (function : Lacks parts "function")
      (found : HoldsTable parts table) : AcceptedRule (.object parts)
  | direct {parts : Fields} {source? name? : Option String} (plain : Lacks parts nestedKey)
      (lookup : Lacks parts "lookup") (source : HoldsText parts "source" source?)
      (function : HoldsText parts "function" name?) (any : source? ≠ none ∨ name? ≠ none) :
      AcceptedRule (.object parts)

/-- A nested body is accepted when it is an accepted level or a list of these. -/
inductive AcceptedBody : Value → Prop where
  | single {fields : Fields} (inner : Accepted (.object fields)) : AcceptedBody (.object fields)
  | many {items : List Value} (each : ∀ item ∈ items, Accepted item) : AcceptedBody (.list items)

end

mutual

/-- The definition that a value denotes: its constants, and the rules of its other keys. -/
inductive Denotes : Value → Definition → Prop where
  | object {fields constants : Fields} {rules : List (String × Spec)}
      (given : HoldsConstants fields constants) (each : DenotesFields constants fields rules) :
      Denotes (.object fields) (.level constants rules)

/-- Rules stand in the order of their keys; the reserved key has none. -/
inductive DenotesFields : Fields → Fields → List (String × Spec) → Prop where
  | nil {constants : Fields} : DenotesFields constants [] []
  | reserved {constants fields : Fields} {value : Value} {rules : List (String × Spec)}
      (tail : DenotesFields constants fields rules) :
      DenotesFields constants ((constantKey, value) :: fields) rules
  | field {constants fields : Fields} {key : String} {value : Value} {spec : Spec}
      {rules : List (String × Spec)} (other : key ≠ constantKey) (fresh : key ∉ constants.keys)
      (head : DenotesRule value spec) (tail : DenotesFields constants fields rules) :
      DenotesFields constants ((key, value) :: fields) ((key, spec) :: rules)

/-- A rule carries exactly the texts, the table and the definitions of its parts. -/
inductive DenotesRule : Value → Spec → Prop where
  | nested {parts : Fields} {raw : Value} {body : Nested} (source : Lacks parts "source")
      (function : Lacks parts "function") (lookup : Lacks parts "lookup")
      (given : parts.get? nestedKey = some raw) (inner : DenotesBody raw body) :
      DenotesRule (.object parts) (.nested body)
  | lookup {parts : Fields} {name : String} {table : TableRef} (plain : Lacks parts nestedKey)
      (source : HoldsText parts "source" (some name)) (function : Lacks parts "function")
      (found : HoldsTable parts table) : DenotesRule (.object parts) (.lookup name table)
  | function {parts : Fields} {source? : Option String} {name : String}
      (plain : Lacks parts nestedKey) (lookup : Lacks parts "lookup")
      (source : HoldsText parts "source" source?)
      (function : HoldsText parts "function" (some name)) :
      DenotesRule (.object parts) (.function source? name)
  | copy {parts : Fields} {name : String} (plain : Lacks parts nestedKey)
      (lookup : Lacks parts "lookup") (source : HoldsText parts "source" (some name))
      (function : Lacks parts "function") : DenotesRule (.object parts) (.copy name)

inductive DenotesBody : Value → Nested → Prop where
  | single {fields : Fields} {definition : Definition}
      (inner : Denotes (.object fields) definition) :
      DenotesBody (.object fields) (.single definition)
  | many {items : List Value} {definitions : List Definition}
      (each : DenotesItems items definitions) : DenotesBody (.list items) (.many definitions)

inductive DenotesItems : List Value → List Definition → Prop where
  | nil : DenotesItems [] []
  | cons {item : Value} {definition : Definition} {items : List Value}
      {definitions : List Definition} (head : Denotes item definition)
      (tail : DenotesItems items definitions) :
      DenotesItems (item :: items) (definition :: definitions)

end

section Parts

variable {fields : Fields} {key name : String}

theorem present_eq_none : present fields name = none ↔ Lacks fields name := by
  unfold present Lacks
  cases hg : fields.get? name with
  | none => simp
  | some value => cases value <;> simp [Value.isNull]

theorem present_eq_some {value : Value} :
    present fields name = some value ↔ fields.get? name = some value ∧ value.isNull = false := by
  simp [present, Option.filter_eq_some_iff]

theorem textPart_eq_ok {text : Option String} :
    textPart key fields name = .ok text ↔ HoldsText fields name text := by
  unfold textPart
  constructor
  · intro h
    split at h
    · next hp =>
      cases h
      exact .absent (present_eq_none.mp hp)
    · next hp =>
      cases h
      exact .present (present_eq_some.mp hp).1
    · cases h
  · intro h
    cases h with
    | absent lacks => rw [present_eq_none.mpr lacks]
    | present given => rw [present_eq_some.mpr ⟨given, rfl⟩]

theorem constantsOf_eq_ok {constants : Fields} :
    constantsOf fields = .ok constants ↔ HoldsConstants fields constants := by
  unfold constantsOf
  constructor
  · intro h
    split at h
    · next hn => cases h; exact .absent (.inl hn)
    · next hn => cases h; exact .absent (.inr hn)
    · next hg => cases h; exact .present hg
    · cases h
  · intro h
    cases h with
    | absent lacks => rcases lacks with hn | hn <;> rw [hn]
    | present given => rw [given]

theorem tableOf_eq_ok (key : String) {table : TableRef} :
    (∃ raw, present fields "lookup" = some raw ∧ tableOf key raw = .ok table) ↔
      HoldsTable fields table := by
  constructor
  · rintro ⟨raw, hp, ht⟩
    have given := (present_eq_some.mp hp).1
    cases raw with
    | text name => cases ht; exact .named given
    | object table => cases ht; exact .inline given
    | _ => cases ht
  · intro h
    cases h with
    | named given => exact ⟨_, present_eq_some.mpr ⟨given, rfl⟩, rfl⟩
    | inline given => exact ⟨_, present_eq_some.mpr ⟨given, rfl⟩, rfl⟩

end Parts

section Rule

variable {parts : Fields} {key : String} {spec : Spec}

theorem HoldsText.lacks {name : String} (h : HoldsText parts name none) : Lacks parts name := by
  cases h with
  | absent lacks => exact lacks

theorem DenotesBody.isNull {raw : Value} {body : Nested} (h : DenotesBody raw body) :
    raw.isNull = false := by
  cases h <;> rfl

/-- What the parts of a rule without a nested body make, the rule denotes. -/
theorem denotesRule_of_plainSpec {source? name? : Option String} (plain : Lacks parts nestedKey)
    (source : HoldsText parts "source" source?) (function : HoldsText parts "function" name?)
    (h : plainSpec key source? name? (present parts "lookup") = .ok spec) :
    DenotesRule (.object parts) spec := by
  cases hl : present parts "lookup" with
  | none =>
    have lookup := present_eq_none.mp hl
    rw [hl] at h
    cases name? with
    | some name =>
      cases source? <;> cases h <;> exact .function plain lookup source function
    | none =>
      cases source? with
      | some name => cases h; exact .copy plain lookup source function.lacks
      | none => cases h
  | some raw =>
    rw [hl] at h
    cases source? with
    | none => cases h
    | some name =>
      cases name? with
      | some other => cases h
      | none =>
        obtain ⟨table, ht, rfl⟩ := Outcome.map_eq_ok.mp h
        exact .lookup plain source function.lacks ((tableOf_eq_ok key).mp ⟨raw, hl, ht⟩)

end Rule

mutual

/-- Reading a value succeeds with exactly the definition that it denotes. -/
theorem ofValue_eq_ok : ∀ {value : Value} {definition : Definition},
    ofValue value = .ok definition ↔ Denotes value definition
  | .object fields, definition => by
    simp only [ofValue, Outcome.bind_eq_ok, constantsOf_eq_ok, ofFields_eq_ok]
    constructor
    · rintro ⟨constants, hc, rules, hr, h⟩
      cases h
      exact .object hc hr
    · intro h
      cases h with
      | object given each => exact ⟨_, given, _, each, rfl⟩
  | .null, _ => ⟨nofun, nofun⟩
  | .bool _, _ => ⟨nofun, nofun⟩
  | .number _, _ => ⟨nofun, nofun⟩
  | .text _, _ => ⟨nofun, nofun⟩
  | .list _, _ => ⟨nofun, nofun⟩

theorem ofFields_eq_ok {constants : Fields} : ∀ {fields : List (String × Value)}
    {rules : List (String × Spec)},
    ofFields constants fields = .ok rules ↔ DenotesFields constants fields rules
  | [], rules => by
    constructor
    · intro h; cases h; exact .nil
    · intro h; cases h; rfl
  | (key, value) :: rest, rules => by
    rw [ofFields]
    by_cases hk : key = constantKey
    · rw [if_pos hk, ofFields_eq_ok]
      subst hk
      constructor
      · exact .reserved
      · intro h
        cases h with
        | reserved tail => exact tail
        | field other _ _ _ => exact absurd rfl other
    · rw [if_neg hk]
      cases hc : constants.contains key with
      | true =>
        constructor
        · intro h; cases h
        · intro h
          cases h with
          | reserved _ => exact absurd rfl hk
          | field _ fresh _ _ => exact absurd (Fields.contains_eq_true_iff.mp hc) fresh
      | false =>
        simp only [Bool.false_eq_true, ↓reduceIte, Outcome.bind_eq_ok, specOf_eq_ok,
          ofFields_eq_ok]
        constructor
        · rintro ⟨spec, hs, rules, hr, h⟩
          cases h
          exact .field hk (Fields.contains_eq_false_iff.mp hc) hs hr
        · intro h
          cases h with
          | reserved _ => exact absurd rfl hk
          | field _ _ head tail => exact ⟨_, head, _, tail, rfl⟩

theorem specOf_eq_ok {key : String} : ∀ {value : Value} {spec : Spec},
    specOf key value = .ok spec ↔ DenotesRule value spec
  | .object parts, spec => by
    -- The reader settles source and function before it looks at the body, the grammar has no order:
    -- so one direction follows the reader, and the other evaluates it on each constructor.
    constructor
    · intro h
      simp only [specOf, Outcome.bind_eq_ok, textPart_eq_ok] at h
      obtain ⟨source?, hs, name?, hf, h⟩ := h
      cases hn : present parts nestedKey with
      | none =>
        rw [hn] at h
        exact denotesRule_of_plainSpec (present_eq_none.mp hn) hs hf h
      | some raw =>
        rw [hn, if_neg (by simp)] at h
        -- The body must be alone: no other part may be there.
        cases source? with
        | some source => cases h
        | none =>
          cases name? with
          | some name => cases h
          | none =>
            cases hl : present parts "lookup" with
            | some table => rw [hl] at h; cases h
            | none =>
              rw [hl] at h
              obtain ⟨raw, body, hg, hb, rfl⟩ := nestedIn_eq_ok.mp h
              exact .nested hs.lacks hf.lacks (present_eq_none.mp hl) hg hb
    · intro h
      cases h with
      | nested source function lookup given inner =>
        have hn := present_eq_some.mpr ⟨given, inner.isNull⟩
        simp only [specOf, textPart_eq_ok.mpr (.absent source), Outcome.ok_bind,
          textPart_eq_ok.mpr (.absent function), present_eq_none.mpr lookup, hn]
        exact nestedIn_eq_ok.mpr ⟨_, _, given, inner, rfl⟩
      | lookup plain source function found =>
        obtain ⟨raw, hp, ht⟩ := (tableOf_eq_ok key).mpr found
        simp only [specOf, textPart_eq_ok.mpr source, Outcome.ok_bind,
          textPart_eq_ok.mpr (.absent function), present_eq_none.mpr plain, hp, plainSpec, ht]
        rfl
      | function plain lookup source function =>
        simp only [specOf, textPart_eq_ok.mpr source, Outcome.ok_bind,
          textPart_eq_ok.mpr function, present_eq_none.mpr plain, present_eq_none.mpr lookup]
        rfl
      | copy plain lookup source function =>
        simp only [specOf, textPart_eq_ok.mpr source, Outcome.ok_bind,
          textPart_eq_ok.mpr (.absent function), present_eq_none.mpr plain,
          present_eq_none.mpr lookup]
        rfl
  | .null, _ => ⟨nofun, nofun⟩
  | .bool _, _ => ⟨nofun, nofun⟩
  | .number _, _ => ⟨nofun, nofun⟩
  | .text _, _ => ⟨nofun, nofun⟩
  | .list _, _ => ⟨nofun, nofun⟩

theorem nestedIn_eq_ok {key : String} : ∀ {parts : List (String × Value)} {spec : Spec},
    nestedIn key parts = .ok spec ↔
      ∃ raw body, Fields.get? parts nestedKey = some raw ∧ DenotesBody raw body ∧ spec = .nested body
  | [], spec => by
    constructor
    · intro h; cases h
    · rintro ⟨raw, body, hg, -, -⟩; cases hg
  | (name, value) :: rest, spec => by
    rw [nestedIn, Fields.get?_cons]
    by_cases hn : name = nestedKey
    · simp only [if_pos hn, nestedOf_eq_ok, Option.some.injEq, exists_and_left, exists_eq_left']
    · simp only [if_neg hn, nestedIn_eq_ok]

theorem nestedOf_eq_ok {key : String} : ∀ {value : Value} {spec : Spec},
    nestedOf key value = .ok spec ↔ ∃ body, DenotesBody value body ∧ spec = .nested body
  | .list items, spec => by
    simp only [nestedOf, Outcome.bind_eq_ok, ofItems_eq_ok]
    constructor
    · rintro ⟨definitions, hi, h⟩
      cases h
      exact ⟨_, .many hi, rfl⟩
    · rintro ⟨body, hb, rfl⟩
      cases hb with
      | many each => exact ⟨_, each, rfl⟩
  | .object fields, spec => by
    simp only [nestedOf, Outcome.bind_eq_ok, constantsOf_eq_ok, ofFields_eq_ok]
    constructor
    · rintro ⟨constants, hc, rules, hr, h⟩
      cases h
      exact ⟨_, .single (.object hc hr), rfl⟩
    · rintro ⟨body, hb, rfl⟩
      cases hb with
      | single inner =>
        cases inner with
        | object given each => exact ⟨_, given, _, each, rfl⟩
  | .null, _ => ⟨nofun, nofun⟩
  | .bool _, _ => ⟨nofun, nofun⟩
  | .number _, _ => ⟨nofun, nofun⟩
  | .text _, _ => ⟨nofun, nofun⟩

theorem ofItems_eq_ok : ∀ {items : List Value} {definitions : List Definition},
    ofItems items = .ok definitions ↔ DenotesItems items definitions
  | [], definitions => by
    constructor
    · intro h; cases h; exact .nil
    · intro h; cases h; rfl
  | item :: rest, definitions => by
    simp only [ofItems, Outcome.bind_eq_ok, ofValue_eq_ok, ofItems_eq_ok]
    constructor
    · rintro ⟨definition, hd, definitions, hr, h⟩
      cases h
      exact .cons hd hr
    · intro h
      cases h with
      | cons head tail => exact ⟨_, head, _, tail, rfl⟩

end

mutual

theorem Denotes.accepted {value : Value} {definition : Definition} :
    Denotes value definition → Accepted value
  | .object given each =>
    .object given (fun _ _ hm hk => (each.accepted hm hk).1) fun _ _ hm hk => (each.accepted hm hk).2

theorem DenotesFields.accepted {constants fields : Fields} {rules : List (String × Spec)}
    {key : String} {value : Value} :
    DenotesFields constants fields rules → (key, value) ∈ fields → key ≠ constantKey →
      key ∉ constants.keys ∧ AcceptedRule value
  | .nil, hm, _ => by cases hm
  | .reserved tail, hm, hk => by
    rcases List.mem_cons.mp hm with he | hr
    · cases he
      exact absurd rfl hk
    · exact tail.accepted hr hk
  | .field _ fresh head tail, hm, hk => by
    have ha := head.accepted
    rcases List.mem_cons.mp hm with he | hr
    · cases he
      exact ⟨fresh, ha⟩
    · exact tail.accepted hr hk

theorem DenotesRule.accepted {value : Value} {spec : Spec} :
    DenotesRule value spec → AcceptedRule value
  | .nested source function lookup given inner =>
    .nested source function lookup given inner.accepted
  | .lookup plain source function found => .lookup plain source function found
  | .function plain lookup source function => .direct plain lookup source function (.inr nofun)
  | .copy plain lookup source function =>
    .direct plain lookup source (.absent function) (.inl nofun)

theorem DenotesBody.accepted {value : Value} {body : Nested} :
    DenotesBody value body → AcceptedBody value
  | .single inner => .single inner.accepted
  | .many each => .many fun _ hm => each.accepted hm

theorem DenotesItems.accepted {items : List Value} {definitions : List Definition} {item : Value} :
    DenotesItems items definitions → item ∈ items → Accepted item
  | .nil, hm => by cases hm
  | .cons head tail, hm => by
    have ha := head.accepted
    rcases List.mem_cons.mp hm with rfl | hr
    · exact ha
    · exact tail.accepted hr

end

section Exists

-- The lists are worked through with what their members denote already at hand, so that the recursion
-- below can stay on the derivation of what is accepted.

theorem exists_denotesFields {constants : Fields} : ∀ {fields : Fields},
    (∀ key value, (key, value) ∈ fields → key ≠ constantKey → key ∉ constants.keys) →
    (∀ key value, (key, value) ∈ fields → key ≠ constantKey → ∃ spec, DenotesRule value spec) →
      ∃ rules, DenotesFields constants fields rules
  | [], _, _ => ⟨[], .nil⟩
  | (key, value) :: rest, fresh, each => by
    obtain ⟨rules, hr⟩ := exists_denotesFields
      (fun key value hm => fresh key value (List.mem_cons_of_mem _ hm))
      (fun key value hm => each key value (List.mem_cons_of_mem _ hm))
    by_cases hk : key = constantKey
    · subst hk
      exact ⟨rules, .reserved hr⟩
    · obtain ⟨spec, hs⟩ := each key value List.mem_cons_self hk
      exact ⟨_, .field hk (fresh key value List.mem_cons_self hk) hs hr⟩

theorem exists_denotesItems : ∀ {items : List Value},
    (∀ item ∈ items, ∃ definition, Denotes item definition) →
      ∃ definitions, DenotesItems items definitions
  | [], _ => ⟨[], .nil⟩
  | item :: rest, each => by
    obtain ⟨definition, hd⟩ := each item List.mem_cons_self
    obtain ⟨definitions, hr⟩ := exists_denotesItems fun other hm =>
      each other (List.mem_cons_of_mem _ hm)
    exact ⟨_, .cons hd hr⟩

mutual

theorem Accepted.exists_denotes {value : Value} :
    Accepted value → ∃ definition, Denotes value definition
  | .object given fresh each => by
    obtain ⟨rules, hr⟩ := exists_denotesFields fresh fun key value hm hk =>
      (each key value hm hk).exists_denotes
    exact ⟨_, .object given hr⟩

theorem AcceptedRule.exists_denotes {value : Value} :
    AcceptedRule value → ∃ spec, DenotesRule value spec
  | .nested source function lookup given inner => by
    obtain ⟨body, hb⟩ := inner.exists_denotes
    exact ⟨_, .nested source function lookup given hb⟩
  | .lookup plain source function found => ⟨_, .lookup plain source function found⟩
  | @AcceptedRule.direct _ source? name? plain lookup source function any => by
    cases name? with
    | some name => exact ⟨_, .function plain lookup source function⟩
    | none =>
      cases source? with
      | some name => exact ⟨_, .copy plain lookup source function.lacks⟩
      | none => rcases any with hn | hn <;> exact absurd rfl hn

theorem AcceptedBody.exists_denotes {value : Value} :
    AcceptedBody value → ∃ body, DenotesBody value body
  | .single inner => by
    obtain ⟨definition, hd⟩ := inner.exists_denotes
    exact ⟨_, .single hd⟩
  | .many each => by
    obtain ⟨definitions, hd⟩ := exists_denotesItems fun item hm => (each item hm).exists_denotes
    exact ⟨_, .many hd⟩

end

end Exists

/-- The keys of an object but for the reserved one, in order. -/
def fieldKeys : Value → List String
  | .object fields => (Fields.keys fields).filter fun key => key ≠ constantKey
  | _ => []

theorem DenotesFields.keys_eq {constants fields : Fields} {rules : List (String × Spec)} :
    DenotesFields constants fields rules →
      rules.map Prod.fst = fields.keys.filter fun key => key ≠ constantKey
  | .nil => rfl
  | @DenotesFields.reserved _ fields _ _ tail => by
    change _ = (constantKey :: Fields.keys fields).filter _
    rw [List.filter_cons, if_neg (by decide)]
    exact tail.keys_eq
  | @DenotesFields.field _ fields key _ _ _ other _ _ tail => by
    change _ = (key :: Fields.keys fields).filter _
    rw [List.filter_cons, if_pos (decide_eq_true other)]
    exact congrArg (key :: ·) tail.keys_eq

theorem Denotes.fieldKeys_eq {value : Value} {definition : Definition}
    (h : Denotes value definition) : definition.fields.map Prod.fst = fieldKeys value := by
  cases h with
  | object given each => exact each.keys_eq

section Members

/-- Each rule that is denoted comes from a field whose key is no constant. -/
theorem DenotesFields.rule_of_mem {constants : Fields} {key : String} {spec : Spec} :
    ∀ {fields : Fields} {rules : List (String × Spec)}, DenotesFields constants fields rules →
      (key, spec) ∈ rules → key ∉ constants.keys ∧ ∃ value, (key, value) ∈ fields ∧
        DenotesRule value spec
  | _, _, .nil, hm => by cases hm
  | _, _, .reserved tail, hm => by
    obtain ⟨fresh, value, hv, hr⟩ := tail.rule_of_mem hm
    exact ⟨fresh, value, List.mem_cons_of_mem _ hv, hr⟩
  | _, _, .field _ fresh head tail, hm => by
    rcases List.mem_cons.mp hm with he | hr
    · cases he
      exact ⟨fresh, _, List.mem_cons_self, head⟩
    · obtain ⟨fresh, value, hv, hr⟩ := tail.rule_of_mem hr
      exact ⟨fresh, value, List.mem_cons_of_mem _ hv, hr⟩

theorem DenotesItems.denotes_of_mem {definition : Definition} :
    ∀ {items : List Value} {definitions : List Definition}, DenotesItems items definitions →
      definition ∈ definitions → ∃ item ∈ items, Denotes item definition
  | _, _, .nil, hm => by cases hm
  | _, _, .cons head tail, hm => by
    rcases List.mem_cons.mp hm with rfl | hr
    · exact ⟨_, List.mem_cons_self, head⟩
    · obtain ⟨item, hi, hd⟩ := tail.denotes_of_mem hr
      exact ⟨item, List.mem_cons_of_mem _ hi, hd⟩

theorem DenotesBody.denotes_of_mem {raw : Value} {body : Nested} {definition : Definition}
    (h : DenotesBody raw body) (hm : definition ∈ body.toList) :
    ∃ value, Denotes value definition := by
  cases h with
  | single inner =>
    rw [Nested.toList, List.mem_singleton] at hm
    exact ⟨_, hm ▸ inner⟩
  | many each =>
    obtain ⟨item, -, hd⟩ := each.denotes_of_mem hm
    exact ⟨item, hd⟩

end Members

/-- Reading succeeds exactly on the accepted values, and then with the one definition that the value
denotes, whose fields have the keys of the value but for the reserved one, in order. -/
theorem ofValue_ok_iff_accepted (value : Value) :
    ((∃ definition, ofValue value = .ok definition) ↔ Accepted value) ∧
    ∀ definition, ofValue value = .ok definition ↔
      Denotes value definition ∧ definition.fields.map Prod.fst = fieldKeys value := by
  refine ⟨⟨?_, ?_⟩, fun definition => ?_⟩
  · rintro ⟨definition, hd⟩
    exact (ofValue_eq_ok.mp hd).accepted
  · intro ha
    obtain ⟨definition, hd⟩ := ha.exists_denotes
    exact ⟨definition, ofValue_eq_ok.mpr hd⟩
  · rw [ofValue_eq_ok]
    exact ⟨fun hd => ⟨hd, hd.fieldKeys_eq⟩, And.left⟩

-- Null counts as absent, and a key without a meaning is passed over.
example : ofValue (.object [("$constant", .null),
      ("id", .object [("source", "number"), ("lookup", .null), ("note", .int 1)])]) =
    .ok (.level [] [("id", .copy "number")]) := rfl

end Reshape.Definition
