import Mathlib.Data.List.Perm.Basic
import Reshape.Journal

/-!
# Outcomes of sequences

A sequence succeeds exactly when each of its parts does, and fails like the first part that fails.
The journal of a sequence has the outcome of the plain sequence. What it notes is what its parts note,
one after the other, up to the first that fails.
-/
namespace Reshape

variable {ω ε α β : Type}

namespace Outcome

theorem ok_bind (a : α) (f : α → Except ε β) : (Except.ok a >>= f) = f a := rfl

/-- A sequence succeeds exactly when its first part does and then what follows it. -/
theorem bind_eq_ok {x : Except ε α} {f : α → Except ε β} {b : β} :
    (x >>= f) = .ok b ↔ ∃ a, x = .ok a ∧ f a = .ok b := by
  cases x with
  | ok a => simp only [ok_bind, Except.ok.injEq, exists_eq_left']
  | error e =>
    constructor
    · intro h; cases h
    · rintro ⟨_, h, _⟩; cases h

theorem map_eq_ok {x : Except ε α} {f : α → β} {b : β} :
    (f <$> x) = .ok b ↔ ∃ a, x = .ok a ∧ f a = b := by
  cases x with
  | ok a =>
    change Except.ok (f a) = .ok b ↔ _
    simp only [Except.ok.injEq, exists_eq_left']
  | error e =>
    constructor
    · intro h; cases h
    · rintro ⟨_, h, _⟩; cases h

/-- A sequence fails exactly when its first part does or else what follows it. -/
theorem bind_eq_error {x : Except ε α} {f : α → Except ε β} {e : ε} :
    (x >>= f) = .error e ↔ x = .error e ∨ ∃ a, x = .ok a ∧ f a = .error e := by
  cases x with
  | ok a => simp only [ok_bind, reduceCtorEq, Except.ok.injEq, exists_eq_left', false_or]
  | error e' =>
    change Except.error e' = .error e ↔ _
    simp only [Except.error.injEq, reduceCtorEq, false_and, exists_false, or_false]

theorem map_eq_error {x : Except ε α} {f : α → β} {e : ε} :
    (f <$> x) = .error e ↔ x = .error e := by
  cases x with
  | ok a => exact ⟨nofun, nofun⟩
  | error e' =>
    change Except.error e' = .error e ↔ _
    rw [Except.error.injEq, Except.error.injEq]

theorem mapError_eq_ok {ε' : Type} {x : Except ε α} {f : ε → ε'} {a : α} :
    x.mapError f = .ok a ↔ x = .ok a := by
  cases x <;> simp [Except.mapError]

/-- A failure that is renamed is the new name of what failed. -/
theorem mapError_eq_error {ε' : Type} {x : Except ε α} {f : ε → ε'} {e' : ε'} :
    x.mapError f = .error e' ↔ ∃ e, x = .error e ∧ f e = e' := by
  cases x <;> simp [Except.mapError]

theorem toOption_eq_some {x : Except ε α} {a : α} : x.toOption = some a ↔ x = .ok a := by
  cases x <;> simp [Except.toOption]

/-- How a computation fails, if it does. -/
def failure? : Except ε α → Option ε
  | .ok _ => none
  | .error e => some e

theorem failure?_eq_none_iff {x : Except ε α} : failure? x = none ↔ ∃ a, x = .ok a := by
  cases x with
  | ok a => exact ⟨fun _ => ⟨a, rfl⟩, fun _ => rfl⟩
  | error e =>
    constructor
    · intro h; cases h
    · rintro ⟨_, h⟩; cases h

theorem failure?_eq_some_iff {x : Except ε α} {e : ε} : failure? x = some e ↔ x = .error e := by
  cases x with
  | ok a =>
    constructor
    · intro h; cases h
    · intro h; cases h
  | error e' => rw [failure?, Option.some.injEq, Except.error.injEq]

theorem failure?_map (f : α → β) (x : Except ε α) : failure? (f <$> x) = failure? x := by
  cases x <;> rfl

/-- Working through a list fails like the first of its members that does. -/
theorem failure?_mapM (f : α → Except ε β) (as : List α) :
    failure? (as.mapM f) = as.findSome? fun a => failure? (f a) := by
  induction as with
  | nil => rfl
  | cons a as ih =>
    rw [List.mapM_cons, List.findSome?_cons]
    cases f a with
    | error e => rfl
    | ok b =>
      change failure? ((b :: ·) <$> as.mapM f) = _
      rw [failure?_map, ih, failure?]

/-- Working through a list fails exactly with a member that does and that has none such before it. -/
theorem mapM_eq_error {f : α → Except ε β} {as : List α} {e : ε} :
    as.mapM f = .error e ↔ ∃ before a after, as = before ++ a :: after ∧
      (∀ earlier ∈ before, ∃ b, f earlier = .ok b) ∧ f a = .error e := by
  rw [← failure?_eq_some_iff, failure?_mapM, List.findSome?_eq_some_iff]
  simp only [failure?_eq_some_iff, failure?_eq_none_iff]
  constructor
  · rintro ⟨before, a, after, hsplit, ha, hb⟩
    exact ⟨before, a, after, hsplit, hb, ha⟩
  · rintro ⟨before, a, after, hsplit, hb, ha⟩
    exact ⟨before, a, after, hsplit, ha, hb⟩

theorem mapM_cons_eq_ok {f : α → Except ε β} {a : α} {as : List α} {bs : List β} :
    (a :: as).mapM f = .ok bs ↔
      ∃ b rest, f a = .ok b ∧ as.mapM f = .ok rest ∧ bs = b :: rest := by
  simp only [List.mapM_cons, bind_eq_ok]
  constructor
  · rintro ⟨b, hb, rest, hr, h⟩
    cases h
    exact ⟨b, rest, hb, hr, rfl⟩
  · rintro ⟨b, rest, hb, hr, rfl⟩
    exact ⟨b, hb, rest, hr, rfl⟩

/-- Working through a list succeeds exactly when this does for each of its members. -/
theorem mapM_eq_ok {f : α → Except ε β} {as : List α} {bs : List β} :
    as.mapM f = .ok bs ↔ List.Forall₂ (fun a b => f a = .ok b) as bs := by
  induction as generalizing bs with
  | nil =>
    constructor
    · intro h; cases h; exact .nil
    · intro h; cases h; rfl
  | cons a as ih =>
    rw [mapM_cons_eq_ok]
    constructor
    · rintro ⟨b, rest, hb, hr, rfl⟩
      exact .cons hb (ih.mp hr)
    · intro h
      cases h with
      | cons head tail => exact ⟨_, _, head, ih.mpr tail, rfl⟩

theorem exists_result_of_mem {f : α → Except ε β} {as : List α} {bs : List β}
    (h : as.mapM f = .ok bs) {a : α} (ha : a ∈ as) : ∃ b ∈ bs, f a = .ok b := by
  induction as generalizing bs with
  | nil => cases ha
  | cons first as ih =>
    obtain ⟨b, rest, hb, hr, rfl⟩ := mapM_cons_eq_ok.mp h
    rcases List.mem_cons.mp ha with rfl | ha
    · exact ⟨b, List.mem_cons_self, hb⟩
    · obtain ⟨b', hm, hf⟩ := ih hr ha
      exact ⟨b', List.mem_cons_of_mem b hm, hf⟩

theorem exists_member_of_result {f : α → Except ε β} {as : List α} {bs : List β}
    (h : as.mapM f = .ok bs) {b : β} (hb : b ∈ bs) : ∃ a ∈ as, f a = .ok b := by
  induction as generalizing bs with
  | nil =>
    cases h
    cases hb
  | cons first as ih =>
    obtain ⟨b', rest, hf, hr, rfl⟩ := mapM_cons_eq_ok.mp h
    rcases List.mem_cons.mp hb with rfl | hb
    · exact ⟨first, List.mem_cons_self, hf⟩
    · obtain ⟨a, hm, ha⟩ := ih hr hb
      exact ⟨a, List.mem_cons_of_mem first hm, ha⟩

/-- The members of a list in another order give their results in another order. -/
theorem mapM_perm {f : α → Except ε β} {as as' : List α} {bs : List β} (hp : as.Perm as')
    (h : as.mapM f = .ok bs) : ∃ bs', as'.mapM f = .ok bs' ∧ bs.Perm bs' := by
  obtain ⟨bs', hf, hb⟩ := List.perm_comp_forall₂ hp.symm (mapM_eq_ok.mp h)
  exact ⟨bs', mapM_eq_ok.mpr hf, hb.symm⟩

/-- A computation that fails does so only in some ways. -/
def FailsOnly (P : ε → Prop) (x : Except ε α) : Prop := ∀ e, x = .error e → P e

namespace FailsOnly

variable {P : ε → Prop} {x : Except ε α}

theorem ok (a : α) : FailsOnly P (.ok a : Except ε α) := nofun

theorem error {e : ε} (h : P e) : FailsOnly P (.error e : Except ε α) := by
  intro e' he
  cases he
  exact h

theorem bind {f : α → Except ε β} (hx : FailsOnly P x) (hf : ∀ a, FailsOnly P (f a)) :
    FailsOnly P (x >>= f) := by
  intro e he
  rcases bind_eq_error.mp he with h | ⟨a, -, h⟩
  · exact hx e h
  · exact hf a e h

theorem map (f : α → β) (hx : FailsOnly P x) : FailsOnly P (f <$> x) :=
  fun e he => hx e (map_eq_error.mp he)

theorem mapM {f : α → Except ε β} {as : List α} (each : ∀ a ∈ as, FailsOnly P (f a)) :
    FailsOnly P (as.mapM f) := by
  induction as with
  | nil => exact ok []
  | cons a as ih =>
    obtain ⟨head, tail⟩ := List.forall_mem_cons.mp each
    rw [List.mapM_cons]
    exact head.bind fun b => (ih tail).bind fun bs => ok (b :: bs)

end FailsOnly

/-- Two computations end alike: in related results, or in the same failure. -/
inductive Related (R : α → β → Prop) : Except ε α → Except ε β → Prop where
  | ok {a : α} {b : β} (related : R a b) : Related R (.ok a) (.ok b)
  | error (e : ε) : Related R (.error e) (.error e)

namespace Related

variable {γ δ : Type} {R : α → β → Prop} {S : γ → δ → Prop} {x : Except ε α} {y : Except ε β}

theorem refl {R : α → α → Prop} (h : ∀ a, R a a) (x : Except ε α) : Related R x x := by
  cases x with
  | ok a => exact .ok (h a)
  | error e => exact .error e

theorem imp {S : α → β → Prop} (h : Related R x y) (hs : ∀ a b, R a b → S a b) : Related S x y := by
  cases h with
  | ok related => exact .ok (hs _ _ related)
  | error e => exact .error e

/-- Sequences end alike when their first parts do, and what follows does after related results. -/
theorem bind {f : α → Except ε γ} {g : β → Except ε δ} (h : Related R x y)
    (hf : ∀ a b, R a b → Related S (f a) (g b)) : Related S (x >>= f) (y >>= g) := by
  cases h with
  | ok related => exact hf _ _ related
  | error e => exact .error e

/-- After the same first part, sequences end alike when what follows it does. -/
theorem bind_same {f : α → Except ε γ} {g : α → Except ε δ} (x : Except ε α)
    (hf : ∀ a, Related S (f a) (g a)) : Related S (x >>= f) (x >>= g) := by
  cases x with
  | ok a => exact hf a
  | error e => exact .error e

/-- There are no other ways to end alike. -/
theorem elim (h : Related R x y) :
    (∃ e, x = .error e ∧ y = .error e) ∨ ∃ a b, x = .ok a ∧ y = .ok b ∧ R a b := by
  cases h with
  | ok related => exact Or.inr ⟨_, _, rfl, rfl, related⟩
  | error e => exact Or.inl ⟨e, rfl, rfl⟩

end Related

/-- Where the one computation succeeds, the other fails with a given failure. -/
def Breaks (e : ε) (x : Except ε α) (y : Except ε β) : Prop :=
  ∀ a, x = .ok a → y = .error e

namespace Breaks

variable {γ δ : Type} {e : ε}

theorem bind {x : Except ε α} {y : Except ε β} (h : Breaks e x y) (f : α → Except ε γ)
    (g : β → Except ε δ) : Breaks e (x >>= f) (y >>= g) := by
  intro c hc
  obtain ⟨a, ha, -⟩ := bind_eq_ok.mp hc
  rw [h a ha]
  rfl

theorem bind_same (x : Except ε α) {f : α → Except ε γ} {g : α → Except ε δ}
    (h : ∀ a, Breaks e (f a) (g a)) : Breaks e (x >>= f) (x >>= g) := by
  intro c hc
  obtain ⟨a, ha, hf⟩ := bind_eq_ok.mp hc
  rw [ha]
  exact h a c hf

end Breaks

end Outcome

namespace Journal

/-- The outcome of a journal whose result is renamed. -/
@[simp] theorem outcome_map (f : α → β) (j : Journal ω ε α) :
    (f <$> j).outcome = f <$> j.outcome := by
  obtain ⟨entries, outcome⟩ := j
  cases outcome <;> rfl

@[simp] theorem entries_map (f : α → β) (j : Journal ω ε α) : (f <$> j).entries = j.entries := by
  obtain ⟨entries, outcome⟩ := j
  cases outcome with
  | ok a => exact List.append_nil entries
  | error e => rfl

theorem entries_bind_ok {j : Journal ω ε α} {f : α → Journal ω ε β} {a : α}
    (h : j.outcome = .ok a) : (j >>= f).entries = j.entries ++ (f a).entries := by
  rw [entries_bind, h]

theorem entries_bind_error {j : Journal ω ε α} {f : α → Journal ω ε β} {e : ε}
    (h : j.outcome = .error e) : (j >>= f).entries = j.entries := by
  rw [entries_bind, h, List.append_nil]

theorem mem_entries_bind {j : Journal ω ε α} {f : α → Journal ω ε β} {entry : ω}
    (h : entry ∈ (j >>= f).entries) :
    entry ∈ j.entries ∨ ∃ a, j.outcome = .ok a ∧ entry ∈ (f a).entries := by
  cases ho : j.outcome with
  | ok a =>
    rw [entries_bind_ok ho, List.mem_append] at h
    exact h.imp id fun hf => ⟨a, rfl, hf⟩
  | error e =>
    rw [entries_bind_error ho] at h
    exact Or.inl h

end Journal

end Reshape
