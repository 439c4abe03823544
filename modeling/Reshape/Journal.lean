/-!
# Computations that keep a journal

A computation that notes entries as it goes and ends in a result or a failure. Entries that were
noted before a failure stay. The outcome alone is the plain computation, and the entries of a
sequence are those of its parts one after the other.
-/
namespace Reshape

/-- What was noted, in order, and how it ended. -/
structure Journal (ω ε α : Type) where
  entries : List ω
  outcome : Except ε α

namespace Journal

variable {ω ε α β : Type}

/-- Note an entry. -/
def note (entry : ω) : Journal ω ε Unit := ⟨[entry], .ok ()⟩

/-- A computation that notes nothing. -/
def lift (outcome : Except ε α) : Journal ω ε α := ⟨[], outcome⟩

def fail (failure : ε) : Journal ω ε α := ⟨[], .error failure⟩

def andThen (j : Journal ω ε α) (f : α → Journal ω ε β) : Journal ω ε β :=
  match j.outcome with
  | .ok a => ⟨j.entries ++ (f a).entries, (f a).outcome⟩
  | .error e => ⟨j.entries, .error e⟩

instance : Monad (Journal ω ε) where
  pure a := ⟨[], .ok a⟩
  bind := andThen

/-- The same journal with its failure renamed. -/
def mapFailure {ε' : Type} (f : ε → ε') (j : Journal ω ε α) : Journal ω ε' α :=
  ⟨j.entries, j.outcome.mapError f⟩

@[simp] theorem outcome_pure (a : α) : (pure a : Journal ω ε α).outcome = .ok a := rfl

@[simp] theorem entries_pure (a : α) : (pure a : Journal ω ε α).entries = [] := rfl

@[simp] theorem outcome_lift (r : Except ε α) : (lift r : Journal ω ε α).outcome = r := rfl

@[simp] theorem entries_lift (r : Except ε α) : (lift r : Journal ω ε α).entries = [] := rfl

@[simp] theorem outcome_note (entry : ω) : (note entry : Journal ω ε Unit).outcome = .ok () := rfl

@[simp] theorem entries_note (entry : ω) : (note entry : Journal ω ε Unit).entries = [entry] := rfl

@[simp] theorem outcome_fail (e : ε) : (fail e : Journal ω ε α).outcome = .error e := rfl

@[simp] theorem entries_fail (e : ε) : (fail e : Journal ω ε α).entries = [] := rfl

/-- Forgetting the entries turns sequences of journals into sequences of plain computations. -/
@[simp] theorem outcome_bind (j : Journal ω ε α) (f : α → Journal ω ε β) :
    (j >>= f).outcome = j.outcome >>= fun a => (f a).outcome := by
  obtain ⟨entries, outcome⟩ := j
  cases outcome <;> rfl

/-- What follows a failure notes nothing. -/
theorem entries_bind (j : Journal ω ε α) (f : α → Journal ω ε β) :
    (j >>= f).entries = j.entries ++ (match j.outcome with
      | .ok a => (f a).entries
      | .error _ => []) := by
  obtain ⟨entries, outcome⟩ := j
  cases outcome with
  | ok a => rfl
  | error e => exact (List.append_nil entries).symm

theorem ext {j k : Journal ω ε α} (he : j.entries = k.entries) (ho : j.outcome = k.outcome) :
    j = k := by
  cases j; cases k; simp_all

theorem id_map (j : Journal ω ε α) : id <$> j = j := by
  obtain ⟨entries, _ | a⟩ := j
  · rfl
  · exact ext (List.append_nil entries) rfl

theorem andThen_assoc {γ : Type} (j : Journal ω ε α) (f : α → Journal ω ε β)
    (g : β → Journal ω ε γ) :
    (j.andThen f).andThen g = j.andThen fun a => (f a).andThen g := by
  obtain ⟨entries, _ | a⟩ := j
  · rfl
  · simp only [andThen]
    cases (f a).outcome <;> simp

instance : LawfulMonad (Journal ω ε) :=
  LawfulMonad.mk' _ id_map (fun _ _ => rfl) andThen_assoc

end Journal
end Reshape
