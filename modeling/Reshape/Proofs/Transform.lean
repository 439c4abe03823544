import Reshape.Proofs.Outcome
import Reshape.Transform.Registry
import Reshape.Transform.Table

/-!
# How transforms fail

The built-in transforms and lookup tables fail only with errors that their data cause, and so do the
transforms that registries and sets of tables find, if this is so of the functions that were supplied.
A resolver that is an arbitrary function may find transforms that fail in other ways; such resolvers
are excluded here.
-/
namespace Reshape

open Outcome (FailsOnly)

/-- The errors that a value can cause in a transform. -/
inductive Error.OfData : Error → Prop where
  | transform {name message : String} : OfData (.transform name message)
  | unknownLookupValue {value target : String} : OfData (.unknownLookupValue value target)

theorem Error.OfData.phase_eq {e : Error} (h : e.OfData) : e.phase = .apply := by
  cases h <;> rfl

namespace Transform

/-- A transform is built in, or a table, or was supplied and fails only because of its data. -/
inductive Ordinary : Transform → Prop where
  | builtin {transform : Transform} (given : transform ∈ builtins) : Ordinary transform
  | table {target : String} {table : Fields} : Ordinary (lookup target table)
  | supplied {transform : Transform}
      (fails : ∀ value, FailsOnly Error.OfData (transform.call value)) : Ordinary transform

variable {transform : Transform} (value : Value)

theorem increment_failsOnly : FailsOnly Error.OfData (increment.call value) := by
  unfold increment
  dsimp only
  split
  · exact .ok _
  · split
    · exact .ok _
    · exact .error .transform

theorem onText_failsOnly (name : String) (f : String → String) :
    FailsOnly Error.OfData ((onText name f).call value) := by
  unfold onText
  dsimp only
  split
  · exact .ok _
  · exact .ok _
  · exact .error .transform

theorem toNumber_failsOnly : FailsOnly Error.OfData (toNumber.call value) := by
  unfold toNumber
  dsimp only
  split
  · split
    · exact .ok _
    · exact .error .transform
  · exact .ok _
  · exact .ok _
  · exact .error .transform

theorem length_failsOnly : FailsOnly Error.OfData (length.call value) := by
  unfold length
  dsimp only
  split
  · exact .ok _
  · exact .ok _
  · exact .ok _
  · exact .error .transform

theorem builtins_failsOnly (given : transform ∈ builtins) :
    FailsOnly Error.OfData (transform.call value) := by
  simp only [builtins, List.mem_cons, List.not_mem_nil, or_false] at given
  rcases given with rfl | rfl | rfl | rfl | rfl | rfl | rfl
  · exact increment_failsOnly value
  · exact .ok _
  · exact onText_failsOnly value _ _
  · exact onText_failsOnly value _ _
  · exact .ok _
  · exact toNumber_failsOnly value
  · exact length_failsOnly value

theorem lookup_failsOnly (target : String) (table : Fields) :
    FailsOnly Error.OfData ((lookup target table).call value) := by
  change FailsOnly _ (lookUp table target value)
  unfold lookUp
  split
  · exact .error .unknownLookupValue
  · exact .error .unknownLookupValue
  · exact .ok _

/-- Reporting unknown values against another target leaves the kind of the error as it is. -/
theorem forTarget_failsOnly (target : String) (h : FailsOnly Error.OfData (transform.call value)) :
    FailsOnly Error.OfData ((transform.forTarget target).call value) := by
  change FailsOnly _ ((transform.call value).mapError _)
  cases hr : transform.call value with
  | ok result => exact .ok result
  | error e =>
    cases h e hr with
    | transform => exact .error .transform
    | unknownLookupValue => exact .error .unknownLookupValue

theorem Ordinary.failsOnly (h : transform.Ordinary) :
    FailsOnly Error.OfData (transform.call value) := by
  cases h with
  | builtin given => exact builtins_failsOnly value given
  | table => exact lookup_failsOnly value _ _
  | supplied fails => exact fails value

end Transform

namespace Registry

theorem mem_place {new transform : Transform} {transforms : List Transform}
    (h : transform ∈ place new transforms) : transform = new ∨ transform ∈ transforms := by
  induction transforms with
  | nil => exact .inl (List.mem_singleton.mp h)
  | cons old rest ih =>
    rw [place] at h
    split at h
    · exact List.mem_cons.mp h
    · split at h
      · rcases List.mem_cons.mp h with hn | hr
        · exact .inl hn
        · exact .inr (List.mem_cons_of_mem old hr)
      · rcases List.mem_cons.mp h with ho | hr
        · exact .inr (List.mem_cons.mpr (.inl ho))
        · exact (ih hr).imp_right (List.mem_cons_of_mem old)

theorem mem_foldl_insert {transform : Transform} {news : List Transform} {registry : Registry}
    (h : transform ∈ (news.foldl insert registry).transforms) :
    transform ∈ news ∨ transform ∈ registry.transforms := by
  induction news generalizing registry with
  | nil => exact .inr h
  | cons new news ih =>
    rcases ih h with hn | hr
    · exact .inl (List.mem_cons_of_mem new hn)
    · exact (mem_place hr).imp_left fun he => List.mem_cons.mpr (.inl he)

/-- The registry that is given starts with the built-in transforms and nothing else. -/
theorem mem_builtins {transform : Transform} (h : transform ∈ builtins.transforms) :
    transform ∈ Transform.builtins :=
  (mem_foldl_insert h).resolve_right List.not_mem_nil

end Registry

/-- A resolver is absent, a registry of ordinary transforms, or a set of tables. -/
inductive Resolver.Ordinary : Resolver → Prop where
  | unconfigured : Ordinary .unconfigured
  | registry {registry : Registry}
      (each : ∀ transform ∈ registry.transforms, transform.Ordinary) : Ordinary registry.resolver
  | tables {tables : LookupTables} : Ordinary tables.resolver

theorem Resolver.Ordinary.find? {resolver : Resolver} (h : resolver.Ordinary) {name : String}
    {transform : Transform} (known : resolver.find? name = some transform) :
    transform.Ordinary := by
  cases h with
  | unconfigured => cases known
  | registry each => exact each transform (List.mem_of_find?_eq_some known)
  | @tables tables =>
    obtain ⟨table, -, rfl⟩ := Option.map_eq_some_iff.mp known
    exact .table

end Reshape
