import Reshape.Proofs.Binary64.Whole
import Reshape.Proofs.Text.Decimal
import Reshape.Transform.Table

/-!
# Whole numbers in transforms

A float that is a whole number up to `2 ^ 53` has the plain text of the integer that it equals, so a
table finds the same entry for both, and texts are put together the same. Negative zero is the one
exception: its text keeps the sign, which the text of the integer zero does not have.
-/
namespace Reshape

namespace Binary64

variable {x : Binary64}

theorem value_zero (negative : Bool) : (zero negative).value = (0 : Int) := by
  cases negative <;> simp [value, zero]

theorem eq_zero_of_value (hx : x.value = (0 : Int)) : x = zero x.negative := by
  have hs : x.significand = 0 := (significand_eq_zero_iff hx).mpr rfl
  have he : x.exponent = -1074 := x.normal.resolve_left (by rw [hs]; decide)
  cases x
  simp_all [zero]

end Binary64

section Text

variable {x : Binary64} {n : Int}

theorem Value.plainText_int (n : Int) : (Value.int n).plainText = toString n := rfl

theorem Value.plainText_negativeZero :
    (Value.number (.float (Binary64.zero true))).plainText = "-0" := by
  apply String.toList_inj.mp
  exact Binary64.text_plain_of_value (Binary64.value_zero true) (by decide)

/-- The texts are the same unless the float has a sign and the integer has none. -/
theorem Value.plainText_float_eq_iff (hx : x.value = n) (hn : n.natAbs ≤ 2 ^ 53) :
    (Value.number (.float x)).plainText = (Value.int n).plainText ↔ x ≠ .zero true := by
  have htext : (Value.number (.float x)).plainText.toList = _ :=
    Binary64.text_plain_of_value hx hn
  rw [← String.toList_inj, Value.plainText_int, toList_toString_int, htext]
  by_cases h0 : n = 0
  · rw [h0] at hx ⊢
    have hz := Binary64.eq_zero_of_value hx
    rw [if_neg (lt_irrefl (0 : Int)), Int.natAbs_zero, Nat.toDigits_zero]
    cases hs : x.negative with
    | true =>
      rw [hs] at hz
      simp [hz]
    | false =>
      rw [hs] at hz
      simp [hz, Binary64.zero]
  · have hne : x ≠ .zero true := by
      rintro rfl
      rw [Binary64.value_zero] at hx
      exact h0 (Int.cast_inj.mp hx).symm
    rw [Binary64.negative_of_value hx h0]
    by_cases hlt : n < 0
    · simp [hlt, hne]
    · simp [hlt, hne]

end Text

section Alike

/-- Numbers and texts, whose plain text is what `concat` and `toString` make of them. -/
inductive Value.Plain : Value → Prop where
  | number (number : Number) : Plain (.number number)
  | text (text : String) : Plain (.text text)

/-- Two values that every table takes for the same, with the same entry or the same unknown text,
and that `toString` and `concat` write the same, alone and among other items or fields. -/
structure ReadAlike (a b : Value) : Prop where
  lookup : ∀ target table,
    (Transform.lookup target table).call a = (Transform.lookup target table).call b
  toPlainText : Transform.toPlainText.call a = Transform.toPlainText.call b
  concat : Transform.concat.call a = Transform.concat.call b
  item : ∀ front back, Transform.concat.call (.list (front ++ a :: back)) =
    Transform.concat.call (.list (front ++ b :: back))
  field : ∀ front key back, Transform.concat.call (.object (front ++ (key, a) :: back)) =
    Transform.concat.call (.object (front ++ (key, b) :: back))

variable {a b : Value}

theorem Value.Plain.toPlainText_call (h : a.Plain) :
    Transform.toPlainText.call a = .ok (.text a.plainText) := by
  cases h <;> rfl

theorem Value.Plain.concat_call (h : a.Plain) :
    Transform.concat.call a = .ok (.text a.plainText) := by
  cases h <;> rfl

theorem ReadAlike.of_plainText (ha : a.Plain) (hb : b.Plain) (h : a.plainText = b.plainText) :
    ReadAlike a b where
  lookup target table := by
    show lookUp table target a = lookUp table target b
    rw [lookUp, lookUp, h]
  toPlainText := by rw [ha.toPlainText_call, hb.toPlainText_call, h]
  concat := by rw [ha.concat_call, hb.concat_call, h]
  item front back := by
    simp only [Transform.concat, Transform.total, List.map_append, List.map_cons, h]
  field front key back := by
    simp only [Transform.concat, Transform.total, List.map_append, List.map_cons, h]

theorem ReadAlike.plainText_eq (ha : a.Plain) (hb : b.Plain) (h : ReadAlike a b) :
    a.plainText = b.plainText := by
  have ht := h.toPlainText
  rw [ha.toPlainText_call, hb.toPlainText_call] at ht
  exact Value.text.inj (Except.ok.inj ht)

end Alike

/-- A float that is a whole number up to `2 ^ 53` is looked up and written like the integer that it
equals, exactly if it is not negative zero; that one is looked up and written as `-0`. -/
theorem float_reads_like_int_iff {x : Binary64} {n : Int} (hx : x.value = n)
    (hn : n.natAbs ≤ 2 ^ 53) :
    (ReadAlike (.number (.float x)) (.int n) ↔ x ≠ .zero true) ∧
    ReadAlike (.number (.float (.zero true))) (.text "-0") := by
  refine ⟨⟨fun h => ?_, fun h => ?_⟩, ?_⟩
  · exact (Value.plainText_float_eq_iff hx hn).mp (h.plainText_eq (.number _) (.number _))
  · exact .of_plainText (.number _) (.number _) ((Value.plainText_float_eq_iff hx hn).mpr h)
  · exact .of_plainText (.number _) (.text _) Value.plainText_negativeZero

theorem Binary64.leastFull_lt : Binary64.leastFull < Binary64.significandBound := by decide

/-- The least whole number in range, `-2 ^ 53`. -/
def leastWhole : Binary64 :=
  ⟨true, Binary64.leastFull, 1, Binary64.leastFull_lt, by decide, by decide, .inl le_rfl⟩

theorem float_reads_like_int_iff_least :
    leastWhole.value = (-9007199254740992 : Int) ∧
    ReadAlike (.number (.float leastWhole)) (.int (-9007199254740992)) ∧
    ¬ ReadAlike (.number (.float (.zero true))) (.int 0) := by
  have hleast : leastWhole.value = (-9007199254740992 : Int) := by
    norm_num [Binary64.value, leastWhole]
  refine ⟨hleast, (float_reads_like_int_iff hleast (by decide)).1.mpr (by decide), fun h => ?_⟩
  exact (float_reads_like_int_iff (Binary64.value_zero true) (by decide)).1.mp h rfl

/-- Not every float that is a whole number finds the entry of the integer that it equals. -/
theorem negative_zero_misses_entry :
    ¬ ∀ (table : Fields) (target : String) (x : Binary64) (n : Int), x.value = n →
      n.natAbs ≤ 2 ^ 53 → (Transform.lookup target table).call (.number (.float x)) =
        (Transform.lookup target table).call (.int n) := by
  intro h
  have hclaim := h [("0", "zero")] "out" (.zero true) 0 (Binary64.value_zero true) (by decide)
  rw [(ReadAlike.of_plainText (.number _) (.text _) Value.plainText_negativeZero).lookup] at hclaim
  cases hclaim

end Reshape
