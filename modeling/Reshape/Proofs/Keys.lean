import Reshape.Json.Reader
import Reshape.Proofs.Fields
import Reshape.Proofs.Outcome

/-!
# Values without repeated keys

An object is a list of fields, which could hold a key twice; the values that are read from a JSON text
never do, at any depth. What else a text must be for a value to be read from it is not stated here.
-/
namespace Reshape

mutual

/-- Does no object within a value hold a key twice? -/
def Value.distinctKeys : Value → Bool
  | .list items => distinctKeysOfItems items
  | .object fields => decide (Fields.keys fields).Nodup && distinctKeysOfFields fields
  | _ => true

def distinctKeysOfItems : List Value → Bool
  | [] => true
  | item :: rest => item.distinctKeys && distinctKeysOfItems rest

def distinctKeysOfFields : List (String × Value) → Bool
  | [] => true
  | (_, value) :: rest => value.distinctKeys && distinctKeysOfFields rest

end

theorem distinctKeysOfItems_iff {items : List Value} :
    distinctKeysOfItems items = true ↔ ∀ item ∈ items, item.distinctKeys = true := by
  induction items with
  | nil => simp [distinctKeysOfItems]
  | cons item rest ih => rw [distinctKeysOfItems, Bool.and_eq_true, ih, List.forall_mem_cons]

theorem distinctKeysOfFields_iff {fields : List (String × Value)} :
    distinctKeysOfFields fields = true ↔ ∀ field ∈ fields, field.2.distinctKeys = true := by
  induction fields with
  | nil => simp [distinctKeysOfFields]
  | cons field rest ih => rw [distinctKeysOfFields, Bool.and_eq_true, ih, List.forall_mem_cons]

theorem distinctKeys_list {items : List Value} :
    (Value.list items).distinctKeys = true ↔ ∀ item ∈ items, item.distinctKeys = true := by
  rw [Value.distinctKeys, distinctKeysOfItems_iff]

theorem distinctKeys_object {fields : Fields} :
    (Value.object fields).distinctKeys = true ↔
      fields.keys.Nodup ∧ ∀ field ∈ fields, field.2.distinctKeys = true := by
  rw [Value.distinctKeys, Bool.and_eq_true, decide_eq_true_iff, distinctKeysOfFields_iff]

/-- A field that is put into an object brings in no key a second time. -/
theorem distinctKeys_insert {fields : Fields} {name : String} {new : Value}
    (h : (Value.object fields).distinctKeys = true) (hn : new.distinctKeys = true) :
    (Value.object (fields.insert name new)).distinctKeys = true := by
  obtain ⟨hk, each⟩ := distinctKeys_object.mp h
  refine distinctKeys_object.mpr ⟨Fields.nodup_insert hk, fun field hf => ?_⟩
  rcases Fields.mem_insert hf with rfl | hf
  · exact hn
  · exact each field hf

namespace Json

variable {α β σ : Type} {P : α → Prop}

/-- What is read, if anything is, has a property. -/
def Yields {c : Cursor} (P : α → Prop) (r : Reading c α) : Prop := ∀ a n, r = .ok (a, n) → P a

theorem Yields.ok {c : Cursor} {a : α} (n : c.Later) (h : P a) : Yields P (.ok (a, n)) := by
  rintro _ _ ⟨⟩
  exact h

theorem Yields.error {c : Cursor} (e : SyntaxError) : Yields P (.error e : Reading c α) := nofun

theorem Yields.from' {c : Cursor} {l : c.Later} {r : Reading l.1 α} (h : Yields P r) :
    Yields P (Reading.from' l r) := by
  cases r with
  | error e => exact .error e
  | ok result => exact .ok _ (h _ _ rfl)

theorem Yields.andThen {c : Cursor} {Q : β → Prop} {r : Reading c α}
    {f : α → (n : Cursor) → Reading n β} (hr : Yields P r) (hf : ∀ a n, P a → Yields Q (f a n)) :
    Yields Q (Reading.andThen r f) := by
  cases r with
  | error e => exact .error e
  | ok result => exact (hf _ _ (hr _ _ rfl)).from'

/-- Anything is read from a place. -/
theorem Yields.trivial {c : Cursor} (r : Reading c α) : Yields (fun _ => True) r :=
  fun _ _ _ => True.intro

theorem yields_wordAt {value : Value} (h : value.distinctKeys = true) (letters : List Char)
    (c : Cursor) : Yields (fun v => v.distinctKeys = true) (wordAt value letters c) := by
  induction letters generalizing c with
  | nil => exact .ok _ h
  | cons letter letters ih =>
    rw [wordAt]
    split
    · exact .error _
    · split
      · exact .from' (ih _)
      · exact .error _

section Fold

variable {P : σ → Prop}

/-- What holds of the state and is kept by each item holds of the state behind the last item. -/
theorem yields_moreItems {item : σ → (c : Cursor) → Reading c σ}
    (step : ∀ state c, P state → Yields P (item state c)) (state : σ) (c : Cursor)
    (h : P state) : Yields P (moreItems item state c) := by
  fun_induction moreItems item state c with
  | case2 => exact .ok _ h
  | case6 _ _ _ _ _ _ _ _ _ _ _ _ hi ih => exact .from' (ih (step _ _ h _ _ hi))
  | _ => exact .error _

theorem yields_foldItems {item : σ → (c : Cursor) → Reading c σ}
    (step : ∀ state c, P state → Yields P (item state c)) (state : σ) (c : Cursor)
    (h : P state) : Yields P (foldItems item state c) := by
  unfold foldItems
  dsimp only
  split
  · exact .error _
  · exact .ok _ h
  · exact ((step _ _ h).andThen fun state n => yields_moreItems step state n).from'

theorem yields_fieldAt {field : σ → String → (c : Cursor) → Reading c σ}
    (step : ∀ state key c, P state → Yields P (field state key c)) (state : σ) (c : Cursor)
    (h : P state) : Yields P (fieldAt field state c) :=
  ((Yields.trivial _).andThen fun key n _ => step state key n h).from'

theorem yields_moreFields {field : σ → String → (c : Cursor) → Reading c σ}
    (step : ∀ state key c, P state → Yields P (field state key c)) (state : σ) (c : Cursor)
    (h : P state) : Yields P (moreFields field state c) := by
  fun_induction moreFields field state c with
  | case2 => exact .ok _ h
  | case5 _ _ _ _ _ _ _ _ _ _ hi ih => exact .from' (ih (yields_fieldAt step _ _ h _ _ hi))
  | _ => exact .error _

theorem yields_foldFields {field : σ → String → (c : Cursor) → Reading c σ}
    (step : ∀ state key c, P state → Yields P (field state key c)) (state : σ) (c : Cursor)
    (h : P state) : Yields P (foldFields field state c) := by
  unfold foldFields
  dsimp only
  split
  · exact .error _
  · exact .ok _ h
  · exact ((yields_fieldAt step state _ h).andThen fun state n =>
      yields_moreFields step state n).from'
  · exact .error _

end Fold

section Value

/-- Values of a reader hold no key twice. -/
abbrev ReadsDistinct (value : (c : Cursor) → Reading c Value) : Prop :=
  ∀ c, Yields (fun v => v.distinctKeys = true) (value c)

theorem yields_freeItem {value : (c : Cursor) → Reading c Value} (hv : ReadsDistinct value)
    (items : List Value) (c : Cursor) (h : ∀ item ∈ items, item.distinctKeys = true) :
    Yields (fun items => ∀ item ∈ items, item.distinctKeys = true) (freeItem value items c) :=
  (hv c).andThen fun _ _ hn => .ok _ (List.forall_mem_cons.mpr ⟨hn, h⟩)

theorem yields_freeField {value : (c : Cursor) → Reading c Value} (hv : ReadsDistinct value)
    (fields : Fields) (key : String) (c : Cursor) (h : (Value.object fields).distinctKeys = true) :
    Yields (fun fields => (Value.object fields).distinctKeys = true)
      (freeField value fields key c) :=
  (Yields.trivial _).andThen fun _ n _ => (hv n).andThen fun _ _ hn =>
    .ok _ (distinctKeys_insert h hn)

theorem readsDistinct_valueWith {inner : Option ((c : Cursor) → Reading c Value)}
    (hi : ∀ value, inner = some value → ReadsDistinct value) : ReadsDistinct (valueWith inner) := by
  intro c
  unfold valueWith
  refine Yields.from' ?_
  split
  · exact .error _
  · exact .from' (yields_wordAt rfl _ _)
  · exact .from' (yields_wordAt rfl _ _)
  · exact .from' (yields_wordAt rfl _ _)
  · exact .from' (.andThen (.trivial _) fun _ _ _ => .ok _ rfl)
  · cases inner with
    | none => exact .error _
    | some value =>
      have items := yields_foldItems (yields_freeItem (hi value rfl)) [] (skipBlanks c).1.next.1
        (List.forall_mem_nil _)
      refine .from' (items.andThen fun items _ each => .ok _ (distinctKeys_list.mpr fun item hm => ?_))
      exact each item (List.mem_reverse.mp hm)
  · cases inner with
    | none => exact .error _
    | some value =>
      have fields := yields_foldFields (yields_freeField (hi value rfl)) []
        (skipBlanks c).1.next.1 rfl
      exact .from' (fields.andThen fun _ _ h => .ok _ h)
  · split
    · exact (Yields.trivial _).andThen fun _ _ _ => .ok _ rfl
    · exact .error _

theorem readsDistinct_valueAt (depth : Nat) : ReadsDistinct (valueAt depth) := by
  induction depth with
  | zero => exact readsDistinct_valueWith nofun
  | succ depth ih =>
    refine readsDistinct_valueWith fun value hv => ?_
    cases hv
    exact ih

/-- A value that was read from a text holds no key twice. -/
theorem distinctKeys_of_read {text : String} {value : Value} (h : read text = .ok value) :
    value.distinctKeys = true := by
  simp only [read, readThen, Outcome.bind_eq_ok, Outcome.mapError_eq_ok] at h
  obtain ⟨⟨first, n⟩, hv, result, hc, -, -, hr⟩ := h
  cases hc
  cases hr
  exact readsDistinct_valueAt maxDepth _ _ n hv

end Value

end Json
end Reshape
