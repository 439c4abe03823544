import Reshape.Proofs.Fields
import Reshape.Proofs.Outcome
import Reshape.Schema

/-!
# What a schema declares

When a raw value reads as a fragment and how it is rejected if it does not, and which fragments a
level of a schema declares for its properties and for the items of an array. A raw value that
nothing asks for is not read, so nothing is required of it.
-/
namespace Reshape.Fragment

/-- A raw value reads as a fragment when it is an object and its properties, if it has any, are an
object; keywords other than the three of a fragment are passed over. -/
inductive Reads : Value → Fragment → Prop where
  | bare {fields : Fields} (none : Fields.get? fields "properties" = none) :
      Reads (.object fields) ⟨keyword fields "type", [], keyword fields "items"⟩
  | full {fields properties : Fields}
      (some : Fields.get? fields "properties" = some (.object properties)) :
      Reads (.object fields) ⟨keyword fields "type", properties, keyword fields "items"⟩

/-- A property is declared by the raw value under its name, which reads as its fragment. -/
def Declares (fragment : Fragment) (name : String) (property : Fragment) : Prop :=
  ∃ value, fragment.properties.get? name = some value ∧ Reads value property

/-- The fragment of array elements: what the items read as if they are an object, and otherwise the
fragment that declares nothing. -/
inductive HasItems : Fragment → Fragment → Prop where
  | object {fragment items : Fragment} {fields : Fields}
      (raw : fragment.items = some (.object fields)) (reads : Reads (.object fields) items) :
      HasItems fragment items
  | none {fragment : Fragment} (raw : ∀ fields, fragment.items ≠ some (.object fields)) :
      HasItems fragment empty

theorem ofValue_eq_ok {argument : String} {value : Value} {fragment : Fragment} :
    ofValue argument value = .ok fragment ↔ Reads value fragment := by
  constructor
  · intro h
    cases value with
    | object fields =>
      rw [ofValue] at h
      cases hp : Fields.get? fields "properties" with
      | none => rw [hp] at h; cases h; exact .bare hp
      | some raw =>
        rw [hp] at h
        cases raw with
        | object properties => cases h; exact .full hp
        | _ => cases h
    | _ => cases h
  · intro h
    cases h with
    | bare hn => rw [ofValue, hn]
    | full hs => rw [ofValue, hs]

theorem property_eq_ok_some {fragment property : Fragment} {name : String} :
    fragment.property name = .ok (some property) ↔ fragment.Declares name property := by
  unfold Fragment.property Declares
  cases hv : fragment.properties.get? name with
  | none => simp
  | some value =>
    change some <$> ofValue _ value = _ ↔ _
    simp [Outcome.map_eq_ok, ofValue_eq_ok]

theorem itemsOrEmpty_eq_ok {fragment items : Fragment} :
    fragment.itemsOrEmpty = .ok items ↔ fragment.HasItems items := by
  constructor
  · intro h
    unfold itemsOrEmpty at h
    split at h
    · next hr => exact .object hr (ofValue_eq_ok.mp h)
    · next hr => cases h; exact .none hr
  · intro h
    cases h with
    | object raw reads => rw [itemsOrEmpty, raw]; exact ofValue_eq_ok.mpr reads
    | none raw =>
      unfold itemsOrEmpty
      split
      · next hr => exact absurd hr (raw _)
      · rfl

theorem Declares.mem_keys {fragment property : Fragment} {name : String}
    (h : fragment.Declares name property) : name ∈ fragment.properties.keys := by
  obtain ⟨value, hv, -⟩ := h
  by_contra hn
  rw [Fields.get?_eq_none_iff.mpr hn] at hv
  cases hv

theorem container_eq_object {fragment : Fragment} :
    fragment.container = .object ↔ fragment.kind = some (.text "object") := by
  unfold container
  split
  · next hk => exact ⟨fun _ => hk, fun _ => rfl⟩
  · next hk => simp [hk]
  · next ho _ => exact ⟨fun h => (by cases h), fun h => absurd h ho⟩

theorem container_eq_array {fragment : Fragment} :
    fragment.container = .array ↔ fragment.kind = some (.text "array") := by
  unfold container
  split
  · next hk => simp [hk]
  · next hk => exact ⟨fun _ => hk, fun _ => rfl⟩
  · next _ ha => exact ⟨fun h => (by cases h), fun h => absurd h ha⟩

section Rejected

/-- A raw value is rejected on behalf of an argument, which the error names: it is no object, or its
properties are none. -/
inductive Rejects (argument : String) : Value → Error → Prop where
  | shape {value : Value} (raw : ∀ fields, value ≠ .object fields) :
      Rejects argument value
        (.invalidArgument argument s!"expected an object, found {value.kind}")
  | properties {fields : Fields} {value : Value}
      (given : Fields.get? fields "properties" = some value)
      (raw : ∀ properties, value ≠ .object properties) :
      Rejects argument (.object fields) (.invalidArgument argument (value.mismatch "a map"))

/-- The raw value of a property is rejected. -/
def RejectsProperty (fragment : Fragment) (name : String) (e : Error) : Prop :=
  ∃ value, fragment.properties.get? name = some value ∧
    Rejects s!"schema for property `{name}`" value e

/-- The items are an object that is rejected. -/
def RejectsItems (fragment : Fragment) (e : Error) : Prop :=
  ∃ fields, fragment.items = some (.object fields) ∧ Rejects "schema for `items`" (.object fields) e

variable {argument name : String} {value : Value} {fragment : Fragment} {e : Error}

theorem ofValue_eq_error : ofValue argument value = .error e ↔ Rejects argument value e := by
  constructor
  · intro h
    cases value with
    | object fields =>
      rw [ofValue] at h
      cases hp : Fields.get? fields "properties" with
      | none => rw [hp] at h; cases h
      | some raw =>
        rw [hp] at h
        cases raw with
        | object properties => cases h
        | _ => cases h; exact .properties hp fun _ hr => by cases hr
    | _ => cases h; exact .shape fun _ hr => by cases hr
  · intro h
    cases h with
    | shape raw =>
      cases value with
      | object fields => exact absurd rfl (raw fields)
      | _ => rfl
    | @properties fields inner given raw =>
      rw [ofValue, given]
      cases inner with
      | object properties => exact absurd rfl (raw properties)
      | _ => rfl

theorem property_eq_error : fragment.property name = .error e ↔ fragment.RejectsProperty name e := by
  unfold Fragment.property RejectsProperty
  cases hv : fragment.properties.get? name with
  | none => simp
  | some value =>
    change some <$> ofValue _ value = _ ↔ _
    simp [Outcome.map_eq_error, ofValue_eq_error]

theorem property_eq_ok_none :
    fragment.property name = .ok none ↔ name ∉ fragment.properties.keys := by
  rw [← Fields.get?_eq_none_iff]
  unfold Fragment.property
  cases hv : fragment.properties.get? name with
  | none => simp
  | some value =>
    change some <$> ofValue _ value = _ ↔ _
    simp [Outcome.map_eq_ok]

theorem itemsOrEmpty_eq_error : fragment.itemsOrEmpty = .error e ↔ fragment.RejectsItems e := by
  unfold itemsOrEmpty RejectsItems
  split
  · next hr => simp [hr, ofValue_eq_error]
  · next hr =>
    constructor
    · intro h; cases h
    · rintro ⟨fields, hf, -⟩
      exact absurd hf (hr fields)

/-- A rejected value is an invalid argument. -/
theorem Rejects.eq_invalidArgument (h : Rejects argument value e) :
    ∃ message, e = .invalidArgument argument message := by
  cases h with
  | shape _ => exact ⟨_, rfl⟩
  | properties _ _ => exact ⟨_, rfl⟩

end Rejected

end Reshape.Fragment
