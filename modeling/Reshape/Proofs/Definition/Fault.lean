import Reshape.Definition.Reader
import Reshape.Proofs.Outcome

/-!
# The faults of reading a definition

Reading fails only with errors that the definition alone causes, and all of them belong to the
compilation. A whole that is not an object is a fault of the argument; every other fault is one of the
five that a definition can have by itself.
-/
namespace Reshape

open Outcome (FailsOnly)

/-- The faults that a definition can have by itself, for which no schema is needed. -/
inductive Error.OfDefinition : Error → Prop where
  | duplicateField {field : String} : OfDefinition (.duplicateField field)
  | incompatibleStrategies {field detail : String} :
      OfDefinition (.incompatibleStrategies field detail)
  | lookupWithoutSource {field : String} : OfDefinition (.lookupWithoutSource field)
  | noStrategy {field : String} : OfDefinition (.noStrategy field)
  | invalidFieldSpec {field message : String} : OfDefinition (.invalidFieldSpec field message)

/-- The faults of reading: those of the definition, and that it is no object. -/
inductive Error.OfReading : Error → Prop where
  | fault {e : Error} (inner : e.OfDefinition) : OfReading e
  | shape {message : String} : OfReading (.invalidArgument "definition" message)

theorem Error.OfReading.phase_eq {e : Error} (h : e.OfReading) : e.phase = .compile := by
  cases h with
  | fault inner => cases inner <;> rfl
  | shape => rfl

namespace Definition

variable {fields : Fields} {key : String}

theorem textPart_failsOnly (name : String) :
    FailsOnly Error.OfReading (textPart key fields name) := by
  unfold textPart
  split
  · exact .ok _
  · exact .ok _
  · exact .error (.fault .invalidFieldSpec)

theorem constantsOf_failsOnly : FailsOnly Error.OfReading (constantsOf fields) := by
  unfold constantsOf
  split
  · exact .ok _
  · exact .ok _
  · exact .ok _
  · exact .error (.fault .invalidFieldSpec)

theorem tableOf_failsOnly (raw : Value) : FailsOnly Error.OfReading (tableOf key raw) := by
  unfold tableOf
  split
  · exact .ok _
  · exact .ok _
  · exact .error (.fault .invalidFieldSpec)

theorem plainSpec_failsOnly (source? name? : Option String) (lookup : Option Value) :
    FailsOnly Error.OfReading (plainSpec key source? name? lookup) := by
  unfold plainSpec
  split
  · exact .error (.fault .lookupWithoutSource)
  · exact .error (.fault .incompatibleStrategies)
  · exact (tableOf_failsOnly _).map _
  · exact .ok _
  · exact .ok _
  · exact .error (.fault .noStrategy)

mutual

theorem ofValue_failsOnly : ∀ value : Value, FailsOnly Error.OfReading (ofValue value)
  | .object fields => constantsOf_failsOnly.bind fun constants =>
    (ofFields_failsOnly constants fields).bind fun _ => .ok _
  | .null => .error .shape
  | .bool _ => .error .shape
  | .number _ => .error .shape
  | .text _ => .error .shape
  | .list _ => .error .shape

theorem ofFields_failsOnly (constants : Fields) :
    ∀ fields : List (String × Value), FailsOnly Error.OfReading (ofFields constants fields)
  | [] => .ok _
  | (key, value) :: rest => by
    rw [ofFields]
    split
    · exact ofFields_failsOnly constants rest
    · split
      · exact .error (.fault .duplicateField)
      · exact (specOf_failsOnly key value).bind fun _ =>
          (ofFields_failsOnly constants rest).bind fun _ => .ok _

theorem specOf_failsOnly (key : String) :
    ∀ value : Value, FailsOnly Error.OfReading (specOf key value)
  | .object parts => by
    rw [specOf]
    refine (textPart_failsOnly "source").bind fun source? => ?_
    refine (textPart_failsOnly "function").bind fun name? => ?_
    dsimp only
    split
    · exact plainSpec_failsOnly source? name? _
    · split
      · exact .error (.fault .incompatibleStrategies)
      · exact nestedIn_failsOnly key parts
  | .null => .error (.fault .invalidFieldSpec)
  | .bool _ => .error (.fault .invalidFieldSpec)
  | .number _ => .error (.fault .invalidFieldSpec)
  | .text _ => .error (.fault .invalidFieldSpec)
  | .list _ => .error (.fault .invalidFieldSpec)

theorem nestedIn_failsOnly (key : String) :
    ∀ parts : List (String × Value), FailsOnly Error.OfReading (nestedIn key parts)
  | [] => .error (.fault .noStrategy)
  | (name, value) :: rest => by
    rw [nestedIn]
    split
    · exact nestedOf_failsOnly key value
    · exact nestedIn_failsOnly key rest

theorem nestedOf_failsOnly (key : String) :
    ∀ value : Value, FailsOnly Error.OfReading (nestedOf key value)
  | .list items => (ofItems_failsOnly items).bind fun _ => .ok _
  | .object fields => constantsOf_failsOnly.bind fun constants =>
    (ofFields_failsOnly constants fields).bind fun _ => .ok _
  | .null => .error (.fault .invalidFieldSpec)
  | .bool _ => .error (.fault .invalidFieldSpec)
  | .number _ => .error (.fault .invalidFieldSpec)
  | .text _ => .error (.fault .invalidFieldSpec)

theorem ofItems_failsOnly :
    ∀ items : List Value, FailsOnly Error.OfReading (ofItems items)
  | [] => .ok _
  | item :: rest => (ofValue_failsOnly item).bind fun _ =>
    (ofItems_failsOnly rest).bind fun _ => .ok _

end

/-- A definition put together by hand has no other faults than one that is read. -/
theorem ofParts_failsOnly (constants : Fields) (entries : List (String × Value)) :
    FailsOnly Error.OfReading (ofParts constants entries) := by
  have each : ∀ entry ∈ entries, FailsOnly Error.OfReading
      (do return (entry.1, ← specOf entry.1 entry.2)) :=
    fun entry _ => (specOf_failsOnly entry.1 entry.2).bind fun _ => .ok _
  exact (FailsOnly.mapM each).bind fun _ => .ok _

end Definition
end Reshape
