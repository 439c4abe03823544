import Mathlib.Data.List.Nodup
import Reshape.Value

/-!
# Members and keys of fields

Where the members of an object's fields come from when fields are put together: from what was put
in and from what was there. Putting fields in keeps keys distinct, and the order of fields with
distinct keys does not matter to it. With distinct keys, what a key finds is its one member.
-/
namespace Reshape.Fields

theorem mem_insert {fields : Fields} {name : String} {new : Value} {entry : String × Value}
    (h : entry ∈ fields.insert name new) : entry = (name, new) ∨ entry ∈ fields := by
  induction fields with
  | nil => exact Or.inl (List.mem_singleton.mp h)
  | cons field rest ih =>
    obtain ⟨key, value⟩ := field
    by_cases hk : key = name
    · rw [insert, if_pos hk] at h
      rcases List.mem_cons.mp h with he | hr
      · exact Or.inl (hk ▸ he)
      · exact Or.inr (List.mem_cons_of_mem _ hr)
    · rw [insert, if_neg hk] at h
      rcases List.mem_cons.mp h with he | hr
      · exact Or.inr (he ▸ List.mem_cons_self)
      · exact (ih hr).imp id (List.mem_cons_of_mem _)

theorem mem_insert_of_mem {fields : Fields} {name : String} {entry : String × Value}
    (h : entry ∈ fields) (hn : entry.1 ≠ name) (new : Value) : entry ∈ fields.insert name new := by
  induction fields with
  | nil => cases h
  | cons field rest ih =>
    obtain ⟨key, value⟩ := field
    by_cases hk : key = name
    · rw [insert, if_pos hk]
      rcases List.mem_cons.mp h with rfl | hr
      · exact absurd hk hn
      · exact List.mem_cons_of_mem _ hr
    · rw [insert, if_neg hk]
      rcases List.mem_cons.mp h with rfl | hr
      · exact List.mem_cons_self
      · exact List.mem_cons_of_mem _ (ih hr)

theorem mem_insertNew {fields : Fields} {name : String} {new : Value} {entry : String × Value}
    (h : entry ∈ fields.insertNew name new) : entry = (name, new) ∨ entry ∈ fields := by
  unfold insertNew at h
  split at h
  · exact Or.inr h
  · rcases List.mem_append.mp h with hf | hn
    · exact Or.inr hf
    · exact Or.inl (List.mem_singleton.mp hn)

theorem nodup_insert {fields : Fields} {name : String} {new : Value}
    (h : fields.keys.Nodup) : (fields.insert name new).keys.Nodup := by
  induction fields with
  | nil => exact List.nodup_singleton name
  | cons field rest ih =>
    obtain ⟨key, value⟩ := field
    obtain ⟨hk, hr⟩ := List.nodup_cons.mp h
    by_cases he : key = name
    · rw [insert, if_pos he]
      exact List.nodup_cons.mpr ⟨hk, hr⟩
    · rw [insert, if_neg he]
      refine List.nodup_cons.mpr ⟨fun hm => ?_, ih hr⟩
      obtain ⟨entry, hin, hkey⟩ := List.mem_map.mp hm
      rcases mem_insert hin with hn | ho
      · rw [hn] at hkey
        exact he hkey.symm
      · exact hk (List.mem_map.mpr ⟨entry, ho, hkey⟩)

/-- A key that was not found is not among the keys. -/
theorem get?_eq_none_iff {fields : Fields} {name : String} :
    fields.get? name = none ↔ name ∉ fields.keys := by
  induction fields with
  | nil => exact ⟨fun _ => List.not_mem_nil, fun _ => rfl⟩
  | cons field rest ih =>
    obtain ⟨key, value⟩ := field
    rw [get?_cons, keys, List.map_cons, List.mem_cons, not_or]
    by_cases hk : key = name
    · rw [if_pos hk]
      constructor
      · intro h; cases h
      · intro h; exact absurd hk.symm h.1
    · rw [if_neg hk, ih]
      exact ⟨fun h => ⟨Ne.symm hk, h⟩, fun h => h.2⟩

theorem get?_append (fields more : Fields) (name : String) :
    get? (fields ++ more) name = (fields.get? name).or (more.get? name) := by
  induction fields with
  | nil => rfl
  | cons field rest ih =>
    obtain ⟨key, value⟩ := field
    rw [List.cons_append, get?_cons, get?_cons, ih]
    by_cases hk : key = name
    · rw [if_pos hk, if_pos hk, Option.some_or]
    · rw [if_neg hk, if_neg hk]

theorem mem_of_get?_eq_some {fields : Fields} {name : String} {value : Value}
    (h : fields.get? name = some value) : (name, value) ∈ fields := by
  induction fields with
  | nil => cases h
  | cons field rest ih =>
    obtain ⟨key, other⟩ := field
    rw [get?_cons] at h
    by_cases hk : key = name
    · rw [if_pos hk] at h
      cases h
      exact hk ▸ List.mem_cons_self
    · rw [if_neg hk] at h
      exact List.mem_cons_of_mem _ (ih h)

/-- Where no key recurs, each member is what its key finds. -/
theorem get?_eq_some_of_mem {fields : Fields} (h : fields.keys.Nodup) {name : String}
    {value : Value} (hm : (name, value) ∈ fields) : fields.get? name = some value := by
  induction fields with
  | nil => cases hm
  | cons field rest ih =>
    obtain ⟨key, other⟩ := field
    obtain ⟨hk, hr⟩ := List.nodup_cons.mp h
    rw [get?_cons]
    rcases List.mem_cons.mp hm with he | hm
    · cases he
      exact if_pos rfl
    · have hn : key ≠ name := fun he => hk (List.mem_map.mpr ⟨_, hm, he.symm⟩)
      rw [if_neg hn]
      exact ih hr hm

theorem contains_eq_false_iff {fields : Fields} {name : String} :
    fields.contains name = false ↔ name ∉ fields.keys := by
  rw [← get?_eq_none_iff, contains, Option.isSome_eq_false_iff, Option.isNone_iff_eq_none]

theorem contains_eq_true_iff {fields : Fields} {name : String} :
    fields.contains name = true ↔ name ∈ fields.keys := by
  rw [← Bool.not_eq_false, contains_eq_false_iff, not_not]

theorem nodup_insertNew {fields : Fields} {name : String} {new : Value}
    (h : fields.keys.Nodup) : (fields.insertNew name new).keys.Nodup := by
  unfold insertNew
  cases hc : fields.contains name with
  | true => exact h
  | false =>
    have hn := contains_eq_false_iff.mp hc
    simp only [Bool.false_eq_true, ↓reduceIte, keys, List.map_append, List.map_cons, List.map_nil]
    rw [← List.concat_eq_append]
    exact h.concat hn

theorem insert_of_not_mem {fields : Fields} {name : String} (h : name ∉ fields.keys) (new : Value) :
    fields.insert name new = fields ++ [(name, new)] := by
  induction fields with
  | nil => rfl
  | cons field rest ih =>
    obtain ⟨key, value⟩ := field
    rw [keys, List.map_cons, List.mem_cons, not_or] at h
    obtain ⟨hk, hr⟩ := h
    rw [insert, if_neg (Ne.symm hk), ih hr, List.cons_append]

theorem insertNew_of_not_mem {fields : Fields} {name : String} (h : name ∉ fields.keys)
    (new : Value) : fields.insertNew name new = fields ++ [(name, new)] := by
  rw [insertNew, contains_eq_false_iff.mpr h, if_neg Bool.false_ne_true]

theorem keys_insert (fields : Fields) (name : String) (new : Value) :
    (fields.insert name new).keys =
      if name ∈ fields.keys then fields.keys else fields.keys ++ [name] := by
  by_cases h : name ∈ fields.keys
  · rw [if_pos h]
    induction fields with
    | nil => cases h
    | cons field rest ih =>
      obtain ⟨key, value⟩ := field
      by_cases hk : key = name
      · rw [insert, if_pos hk]
        rfl
      · have hr : name ∈ keys rest := (List.mem_cons.mp h).resolve_left (Ne.symm hk)
        rw [insert, if_neg hk]
        exact congrArg (key :: ·) (ih hr)
  · rw [if_neg h, insert_of_not_mem h, keys, List.map_append]
    rfl

theorem keys_insertNew (fields : Fields) (name : String) (new : Value) :
    (fields.insertNew name new).keys =
      if name ∈ fields.keys then fields.keys else fields.keys ++ [name] := by
  by_cases h : name ∈ fields.keys
  · rw [if_pos h, insertNew, if_pos (contains_eq_true_iff.mpr h)]
  · rw [if_neg h, insertNew_of_not_mem h, keys, List.map_append]
    rfl

/-- A field that is put in stands beside the fields of other keys, wherever it was put. -/
theorem insert_perm_cons {fields : Fields} (h : fields.keys.Nodup) (name : String) (new : Value) :
    (fields.insert name new).Perm
      ((name, new) :: fields.filter fun field => decide (field.1 ≠ name)) := by
  induction fields with
  | nil => exact List.Perm.refl _
  | cons field rest ih =>
    obtain ⟨key, value⟩ := field
    obtain ⟨hk, hr⟩ := List.nodup_cons.mp h
    by_cases he : key = name
    · subst he
      have hrest : rest.filter (fun field => decide (field.1 ≠ key)) = rest := by
        refine List.filter_eq_self.mpr fun field hf => decide_eq_true fun hn => hk ?_
        exact List.mem_map.mpr ⟨field, hf, hn⟩
      rw [insert, if_pos rfl, List.filter_cons_of_neg (by simp), hrest]
    · rw [insert, if_neg he, List.filter_cons_of_pos (by simpa using he)]
      exact ((ih hr).cons _).trans (List.Perm.swap _ _ _)

/-- The order of fields with distinct keys does not matter to what a field is put into. -/
theorem insert_perm {fields fields' : Fields} (h : fields.Perm fields') (hd : fields.keys.Nodup)
    (name : String) (new : Value) : (fields.insert name new).Perm (fields'.insert name new) := by
  have hd' : fields'.keys.Nodup := (h.map _).nodup hd
  have hp := insert_perm_cons hd name new
  have hp' := insert_perm_cons hd' name new
  exact hp.trans (((h.filter _).cons _).trans hp'.symm)

section Fold

variable {put : Fields → String → Value → Fields} {entries : List (String × Value)}
  {fields : Fields} {entry : String × Value}

/-- What a list of fields is folded into holds nothing but members of the list and what was there. -/
private theorem mem_foldl
    (hput : ∀ {fields name new entry}, entry ∈ put fields name new →
      entry = (name, new) ∨ entry ∈ fields)
    (h : entry ∈ entries.foldl (fun fields e => put fields e.1 e.2) fields) :
    entry ∈ entries ∨ entry ∈ fields := by
  induction entries generalizing fields with
  | nil => exact Or.inr h
  | cons e rest ih =>
    rcases ih h with hr | hf
    · exact Or.inl (List.mem_cons_of_mem _ hr)
    · rcases hput hf with he | hf
      · exact Or.inl (List.mem_cons.mpr (Or.inl he))
      · exact Or.inr hf

private theorem nodup_foldl
    (hput : ∀ {fields name new}, keys fields |>.Nodup → (keys (put fields name new)).Nodup)
    (h : fields.keys.Nodup) :
    (keys (entries.foldl (fun fields e => put fields e.1 e.2) fields)).Nodup := by
  induction entries generalizing fields with
  | nil => exact h
  | cons e rest ih => exact ih (hput h)

private theorem foldl_eq_append
    (hput : ∀ {fields name new}, name ∉ keys fields → put fields name new = fields ++ [(name, new)])
    (h : (fields ++ entries).keys.Nodup) :
    entries.foldl (fun fields e => put fields e.1 e.2) fields = fields ++ entries := by
  induction entries generalizing fields with
  | nil => exact (List.append_nil fields).symm
  | cons e rest ih =>
    have hn : e.1 ∉ fields.keys := by
      rw [keys, List.map_append, List.nodup_append'] at h
      exact fun hm => h.2.2 hm List.mem_cons_self
    rw [List.append_cons] at h
    rw [List.foldl_cons, hput hn, ih h]
    exact (List.append_cons fields e rest).symm

/-- Keys that are put in and were not there come in the order in which they are put in first. -/
private theorem keys_foldl
    (hput : ∀ fields name new, keys (put fields name new) =
      if name ∈ keys fields then keys fields else keys fields ++ [name]) :
    keys (entries.foldl (fun fields e => put fields e.1 e.2) fields) =
      fields.keys ++ ((keys entries).filter fun key => key ∉ fields.keys).eraseDups := by
  induction entries generalizing fields with
  | nil => exact (List.append_nil _).symm
  | cons e rest ih =>
    have hc : keys (e :: rest) = e.1 :: keys rest := rfl
    rw [List.foldl_cons, ih, hput, hc]
    by_cases hk : e.1 ∈ fields.keys
    · rw [if_pos hk, List.filter_cons_of_neg (by simpa using hk)]
    · -- a new key is put in first here, so that later ones of the same name are not new any more
      have hf : (keys rest).filter (fun key => decide (key ∉ fields.keys ++ [e.1])) =
          ((keys rest).filter fun key => decide (key ∉ fields.keys)).filter
            fun key => !key == e.1 := by
        rw [List.filter_filter]
        refine List.filter_congr fun key _ => ?_
        by_cases he : key = e.1 <;> simp [he]
      rw [if_neg hk, List.filter_cons_of_pos (by simpa using hk), List.eraseDups_cons, hf,
        List.append_assoc]
      rfl

theorem mem_ofList (h : entry ∈ ofList entries) : entry ∈ entries :=
  (mem_foldl mem_insert h).resolve_right List.not_mem_nil

theorem mem_foldl_insertNew
    (h : entry ∈ entries.foldl (fun fields e => fields.insertNew e.1 e.2) fields) :
    entry ∈ entries ∨ entry ∈ fields :=
  mem_foldl mem_insertNew h

/-- What is there comes first; new fields are only found where there was nothing. -/
theorem get?_foldl_insertNew (entries : List (String × Value)) (fields : Fields) (name : String) :
    get? (entries.foldl (fun fields e => fields.insertNew e.1 e.2) fields) name =
      (fields.get? name).or (get? entries name) := by
  induction entries generalizing fields with
  | nil => rw [List.foldl_nil, get?_nil, Option.or_none]
  | cons e rest ih =>
    have hi : get? (fields.insertNew e.1 e.2) name =
        (fields.get? name).or (if e.1 = name then some e.2 else none) := by
      unfold insertNew
      by_cases hc : fields.contains e.1 = true
      · rw [if_pos hc]
        by_cases hk : e.1 = name
        · rw [contains, hk] at hc
          obtain ⟨value, hv⟩ := Option.isSome_iff_exists.mp hc
          rw [hv, Option.some_or]
        · rw [if_neg hk, Option.or_none]
      · rw [if_neg hc, get?_append]
        rfl
    rw [List.foldl_cons, ih, hi, Option.or_assoc]
    obtain ⟨key, value⟩ := e
    rw [get?_cons]
    by_cases hk : key = name
    · rw [if_pos hk, if_pos hk, Option.some_or]
    · rw [if_neg hk, if_neg hk, Option.none_or]

theorem keys_foldl_insertNew (entries : List (String × Value)) (fields : Fields) :
    keys (entries.foldl (fun fields e => fields.insertNew e.1 e.2) fields) =
      fields.keys ++ ((keys entries).filter fun key => key ∉ fields.keys).eraseDups :=
  keys_foldl keys_insertNew

/-- New fields go behind those that are there. -/
theorem exists_foldl_insertNew (entries : List (String × Value)) (fields : Fields) :
    ∃ back : Fields,
      entries.foldl (fun fields e => fields.insertNew e.1 e.2) fields = fields ++ back := by
  induction entries generalizing fields with
  | nil => exact ⟨[], (List.append_nil fields).symm⟩
  | cons e rest ih =>
    obtain ⟨back, hb⟩ := ih (fields.insertNew e.1 e.2)
    rw [List.foldl_cons, hb, insertNew]
    split
    · exact ⟨back, rfl⟩
    · exact ⟨(e.1, e.2) :: back, List.append_assoc ..⟩

/-- Each key of a list stands where it comes first. -/
theorem keys_ofList (entries : List (String × Value)) :
    (ofList entries).keys = (keys entries).eraseDups := by
  have hf : (keys entries).filter (fun key => decide (key ∉ keys [])) = keys entries :=
    List.filter_eq_self.mpr fun key _ => decide_eq_true List.not_mem_nil
  have hk : (ofList entries).keys = keys [] ++ _ := keys_foldl keys_insert
  rw [hk, hf]
  rfl

/-- Each key of a list has the value that comes last. -/
theorem get?_ofList (entries : List (String × Value)) (name : String) :
    (ofList entries).get? name = get? entries.reverse name := by
  have h (fields : Fields) :
      get? (entries.foldl (fun fields e => fields.insert e.1 e.2) fields) name =
        (get? entries.reverse name).or (fields.get? name) := by
    induction entries generalizing fields with
    | nil => rfl
    | cons e rest ih =>
      obtain ⟨key, value⟩ := e
      rw [List.foldl_cons, ih, get?_insert, List.reverse_cons, get?_append, Option.or_assoc,
        get?_cons]
      by_cases hk : key = name
      · rw [if_pos hk, if_pos hk, Option.some_or]
      · rw [if_neg hk, if_neg hk]
        rfl
  rw [ofList, h, get?_nil, Option.or_none]

theorem nodup_ofList : (ofList entries).keys.Nodup := nodup_foldl nodup_insert List.nodup_nil

theorem nodup_foldl_insertNew (h : fields.keys.Nodup) :
    (keys (entries.foldl (fun fields e => fields.insertNew e.1 e.2) fields)).Nodup :=
  nodup_foldl nodup_insertNew h

theorem isEmpty_insert (fields : Fields) (name : String) (new : Value) :
    (fields.insert name new).isEmpty = false := by
  cases fields with
  | nil => rfl
  | cons field rest =>
    obtain ⟨key, value⟩ := field
    rw [insert]
    split <;> rfl

theorem isEmpty_ofList (entries : List (String × Value)) :
    (ofList entries).isEmpty = entries.isEmpty := by
  cases entries with
  | nil => rfl
  | cons e rest =>
    have hr : ∀ {fields : Fields}, fields.isEmpty = false →
        (rest.foldl (fun fields e => fields.insert e.1 e.2) fields).isEmpty = false := by
      induction rest with
      | nil => exact fun h => h
      | cons e rest ih => exact fun _ => ih (isEmpty_insert _ _ _)
    exact hr (isEmpty_insert [] e.1 e.2)

/-- A list of distinct keys is fields as it is. -/
theorem ofList_eq_self (h : keys entries |>.Nodup) : ofList entries = entries :=
  foldl_eq_append (fun hn => insert_of_not_mem hn _) h

/-- New fields of distinct keys that are not there go to the end. -/
theorem foldl_insertNew_eq_append (h : (fields ++ entries).keys.Nodup) :
    entries.foldl (fun fields e => fields.insertNew e.1 e.2) fields = fields ++ entries :=
  foldl_eq_append (fun hn => insertNew_of_not_mem hn _) h

end Fold

end Reshape.Fields
