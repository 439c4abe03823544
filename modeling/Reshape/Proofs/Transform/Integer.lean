import Reshape.Proofs.Binary64
import Reshape.Proofs.Plan.Agreement
import Reshape.Proofs.Plan.Assembly
import Reshape.Proofs.Text.Decimal

/-!
# Integers in transforms

Incrementing keeps an integer an integer, and reading undoes writing, as long as the integer fits 64
bits with a sign; after the greatest of these comes the least. The integers that fit only without a
sign leave the integers: what is made of them is the nearest float, a multiple of `2 ^ 11`, so their
last digits are lost.
-/
namespace Reshape

open Number (signedBound fitsSigned wrapSigned)

theorem fitsSigned_iff {n : Int} : fitsSigned n = true ↔ -signedBound ≤ n ∧ n < signedBound := by
  rw [fitsSigned, Bool.and_eq_true, decide_eq_true_iff, decide_eq_true_iff]

theorem wrapSigned_of_fits {n : Int} (h : fitsSigned n = true) : wrapSigned n = n := by
  obtain ⟨low, high⟩ := fitsSigned_iff.mp h
  exact Int.bmod_eq_of_le_mul_two (by omega) (by omega)

/-- An integer that fits 64 bits only without a sign. -/
structure OnlyUnsigned (n : Nat) : Prop where
  ge : signedBound ≤ n
  lt : n < 2 * signedBound

namespace OnlyUnsigned

variable {n : Nat}

theorem not_fitsSigned (h : OnlyUnsigned n) : fitsSigned n = false := by
  have hge := h.ge
  rw [← Bool.not_eq_true, fitsSigned_iff]
  omega

theorem length_toDigits_le (h : OnlyUnsigned n) :
    (Nat.toDigits 10 (n : Int).natAbs).length ≤ 400 := by
  have hlt : n < 10 ^ 20 := h.lt.trans (by decide)
  have hlength : (Nat.toDigits 10 n).length ≤ 20 :=
    (Nat.length_toDigits_le_iff (by decide) (by decide)).mpr hlt
  rw [Int.natAbs_natCast]
  omega

theorem exists_ofInt?_nearest (h : OnlyUnsigned n) :
    ∃ x, Binary64.ofInt? n = some x ∧ x.Nearest 11 n :=
  Binary64.exists_ofInt?_nearest h.ge h.lt (by decide)

end OnlyUnsigned

/-- A result that is a certain integer while the one it is made of fits 64 bits with a sign, and a float
while that fits only without, is the integer exactly in the first case. -/
theorem eq_int_iff_lt {n k : Int} {result : Except Error Value} (low : -signedBound ≤ n)
    (high : n < 2 * signedBound) (signed : fitsSigned n = true → result = .ok (.int k))
    (unsigned : ∀ m : Nat, n = m → OnlyUnsigned m → ∃ x, result = .ok (.number (.float x))) :
    result = .ok (.int k) ↔ n < signedBound := by
  constructor
  · intro hk
    by_contra hn
    obtain ⟨m, hm⟩ := Int.eq_ofNat_of_zero_le (by omega : 0 ≤ n)
    obtain ⟨x, hx⟩ := unsigned m hm ⟨by omega, by omega⟩
    rw [hk] at hx
    cases hx
  · intro hn
    exact signed (fitsSigned_iff.mpr ⟨low, hn⟩)

theorem Value.trimmed_int (n : Int) : (Value.int n).trimmed = .int n := rfl

/-- A node of a function of a source field makes what the function makes of the field, trimmed. -/
theorem Node.outcome_of_field {node : Node} {source : Binding} {transform : Transform}
    (hs : node.strategy = .functionOfField source transform) {input value : Value}
    (hf : (input.get? source.name).getD .null = value) (origin : String) :
    (node.result input origin).outcome = transform.call value.trimmed := by
  rw [Node.outcome_result, hs, outcome_result_functionOfField, Binding.read_eq, hf]

namespace Transform

theorem increment?_int (n : Int) :
    increment? (.number (.int n)) =
      if fitsSigned n then some (.int (wrapSigned (n + 1)))
      else (Binary64.ofInt? n).bind incrementFloat? := rfl

theorem increment_of_some {number : Number} {result : Value}
    (h : increment? (.number number) = some result) :
    increment.call (.number number) = .ok result := by
  simp only [increment, h]

theorem increment_of_fits {n : Int} (h : fitsSigned n = true) :
    increment.call (.int n) = .ok (.int (wrapSigned (n + 1))) := by
  have hi : increment? (.number (.int n)) = some (.int (wrapSigned (n + 1))) := by
    rw [increment?_int, if_pos h]
  rw [Value.int, increment_of_some hi]

example : increment.call (.int 9223372036854775807) = .ok (.int (-9223372036854775808)) := rfl

theorem increment_of_next_fits {n : Int} (h : fitsSigned n = true) (hne : n + 1 ≠ signedBound) :
    increment.call (.int n) = .ok (.int (n + 1)) := by
  obtain ⟨low, high⟩ := fitsSigned_iff.mp h
  have hnext : fitsSigned (n + 1) = true := fitsSigned_iff.mpr ⟨by omega, by omega⟩
  rw [increment_of_fits h, wrapSigned_of_fits hnext]

/-- The float nearest to such an integer is so large that one more makes no difference. -/
theorem increment_of_onlyUnsigned {n : Nat} (h : OnlyUnsigned n) :
    ∃ x, x.Nearest 11 n ∧ increment.call (.int n) = .ok (.number (.float x)) := by
  obtain ⟨x, ho, hx⟩ := h.exists_ofInt?_nearest
  have he := hx.exponent_ge
  have hadd : x.add? Binary64.one = some x :=
    Binary64.add?_one hx.nonnegative hx.full (by omega)
  have hf : incrementFloat? x = some (.number (.float x)) := by
    rw [incrementFloat?, Binary64.ofInt?_one, Option.bind_some, hadd, Option.map_some]
  have hi : increment? (.number (.int n)) = some (.number (.float x)) := by
    rw [increment?_int, if_neg (by simp [h.not_fitsSigned]), ho, Option.bind_some, hf]
  refine ⟨x, hx, ?_⟩
  rw [Value.int, increment_of_some hi]

theorem increment_eq_iff {n : Int} (low : -signedBound ≤ n) (high : n < 2 * signedBound)
    (hne : n + 1 ≠ signedBound) :
    increment.call (.int n) = .ok (.int (n + 1)) ↔ n < signedBound := by
  refine eq_int_iff_lt low high (fun h => increment_of_next_fits h hne) fun m hm hu => ?_
  obtain ⟨x, -, hx⟩ := increment_of_onlyUnsigned hu
  exact ⟨x, hm ▸ hx⟩

theorem increment_of_not_number {value : Value} (hnull : value ≠ .null)
    (hnumber : ∀ number, value ≠ .number number) :
    increment.call value =
      .error (.transform "increment" s!"expected a number, found {Json.compact value}") := by
  cases value with
  | null => exact absurd rfl hnull
  | number number => exact absurd rfl (hnumber number)
  | _ => rfl

theorem toNumber_of_fits {n : Int} (h : fitsSigned n = true) :
    toNumber.call (.text (toString n)) = .ok (.int n) := by
  simp only [toNumber, numberOfText?_toString_of_fits h, Value.int]

theorem toNumber_of_onlyUnsigned {n : Nat} (h : OnlyUnsigned n) :
    ∃ x, x.Nearest 11 n ∧
      toNumber.call (.text (toString (n : Int))) = .ok (.number (.float x)) := by
  obtain ⟨x, ho, hx⟩ := h.exists_ofInt?_nearest
  have hn := numberOfText?_toString_of_not_fits h.not_fitsSigned h.length_toDigits_le
  refine ⟨x, hx, ?_⟩
  simp only [toNumber, hn, ho, Option.map_some]

theorem toNumber_eq_iff {n : Int} (low : -signedBound ≤ n) (high : n < 2 * signedBound) :
    toNumber.call (.text (toString n)) = .ok (.int n) ↔ n < signedBound := by
  refine eq_int_iff_lt low high toNumber_of_fits fun m hm hu => ?_
  obtain ⟨x, -, hx⟩ := toNumber_of_onlyUnsigned hu
  exact ⟨x, hm ▸ hx⟩

end Transform

section Increment

variable {node : Node} {source : Binding}

/-- A node of `increment` makes the next integer of one of 64 bits exactly if that fits with a sign,
where the greatest such is left out. Of an integer that fits only without a sign it makes the nearest
float, of null and of a missing field null, and with any other value that is no number it fails. -/
theorem increment_next_iff
    (hs : node.strategy = .functionOfField source Transform.increment) (input : Value)
    (origin : String) :
    (∀ n : Int, input.get? source.name = some (.int n) → -signedBound ≤ n →
      n + 1 < 2 * signedBound → n + 1 ≠ signedBound →
      ((node.result input origin).outcome = .ok (.int (n + 1)) ↔ n < signedBound)) ∧
    (∀ n : Nat, input.get? source.name = some (.int n) → signedBound ≤ n → n < 2 * signedBound →
      ∃ x, x.Nearest 11 n ∧ (node.result input origin).outcome = .ok (.number (.float x))) ∧
    ((input.get? source.name).getD .null = .null →
      (node.result input origin).outcome = .ok .null) ∧
    ∀ value, input.get? source.name = some value → value ≠ .null →
      (∀ number, value ≠ .number number) →
      (node.result input origin).outcome = .error (.transform "increment"
        s!"expected a number, found {Json.compact value.trimmed}") := by
  have outcome {value : Value} (hv : input.get? source.name = some value) :
      (node.result input origin).outcome = Transform.increment.call value.trimmed :=
    Node.outcome_of_field hs (by rw [hv, Option.getD_some]) origin
  refine ⟨fun n hn hge hlt hne => ?_, fun n hn hge hlt => ?_, fun hnull => ?_,
    fun value hv hnull hnumber => ?_⟩
  · rw [outcome hn, Value.trimmed_int]
    exact Transform.increment_eq_iff hge (by omega) hne
  · rw [outcome hn, Value.trimmed_int]
    exact Transform.increment_of_onlyUnsigned ⟨hge, hlt⟩
  · exact Node.outcome_of_field hs hnull origin
  · rw [outcome hv]
    apply Transform.increment_of_not_number
    · cases value <;> simp_all [Value.trimmed]
    · cases value <;> simp_all [Value.trimmed]

def counter : Binding := ⟨"count", .empty⟩

def counterNode : Node := .mk "next" .empty (.functionOfField counter Transform.increment)

/-- The greatest result, the least integer that becomes a float, null, and a text that looks like a
number. -/
theorem increment_next_iff_counter :
    (counterNode.result (.object [("count", .int 9223372036854775806)]) "erp").outcome =
      .ok (.int 9223372036854775807) ∧
    (∃ x, x.Nearest 11 signedBound ∧
      (counterNode.result (.object [("count", .int signedBound)]) "erp").outcome =
        .ok (.number (.float x))) ∧
    (counterNode.result (.object [("count", .null)]) "erp").outcome = .ok .null ∧
    (counterNode.result (.object [("count", " 7 ")]) "erp").outcome =
      .error (.transform "increment" "expected a number, found \"7\"") := by
  have hs : counterNode.strategy = .functionOfField counter Transform.increment := rfl
  obtain ⟨next, -, -, -⟩ :=
    increment_next_iff hs (.object [("count", .int 9223372036854775806)]) "erp"
  obtain ⟨-, unsigned, -, -⟩ :=
    increment_next_iff hs (.object [("count", .int signedBound)]) "erp"
  obtain ⟨-, -, null, -⟩ := increment_next_iff hs (.object [("count", .null)]) "erp"
  obtain ⟨-, -, -, other⟩ := increment_next_iff hs (.object [("count", " 7 ")]) "erp"
  have signed := (next _ rfl (by decide) (by decide) (by decide)).mpr (by decide)
  refine ⟨signed, unsigned _ rfl le_rfl (by decide), null rfl, ?_⟩
  rw [other " 7 " rfl (by simp) (by simp)]
  rfl

/-- Not every integer of 64 bits is kept an integer, even if the next one fits 64 bits as well. -/
theorem increment_leaves_integers :
    ¬ ∀ (n : Int) (node : Node) (source : Binding) (input : Value) (origin : String),
      -signedBound ≤ n → n + 1 < 2 * signedBound → n + 1 ≠ signedBound →
      node.strategy = .functionOfField source Transform.increment →
      input.get? source.name = some (.int n) →
      (node.result input origin).outcome = .ok (.int (n + 1)) := by
  intro h
  have hs : counterNode.strategy = .functionOfField counter Transform.increment := rfl
  have hf : (Value.object [("count", .int signedBound)]).get? counter.name =
      some (.int signedBound) := rfl
  have hclaim := h signedBound counterNode counter _ "erp" (by decide) (by decide) (by decide) hs hf
  rw [Node.outcome_of_field hs (by rw [hf, Option.getD_some]), Value.trimmed_int,
    Transform.increment_eq_iff (by decide) (by decide) (by decide)] at hclaim
  exact absurd hclaim (by decide)

end Increment

section ToNumber

/-- `toString` writes the decimal text of an integer. From that text `toNumber` reads an integer of 64
bits exactly if it fits with a sign, and the nearest float if it fits only without; blanks around the
text make no difference to a node. Numbers pass through `toNumber` as they are. -/
theorem toNumber_undoes_toPlainText_iff (n : Int) :
    Transform.toPlainText.call (.int n) = .ok (.text (toString n)) ∧
    (-signedBound ≤ n → n < 2 * signedBound →
      (Transform.toNumber.call (.text (toString n)) = .ok (.int n) ↔ n < signedBound)) ∧
    (∀ m : Nat, n = m → signedBound ≤ m → m < 2 * signedBound → ∃ x, x.Nearest 11 m ∧
      Transform.toNumber.call (.text (toString n)) = .ok (.number (.float x))) ∧
    (∀ (front back : List Char), (∀ c ∈ front, Text.isTextSpace c = true) →
      (∀ c ∈ back, Text.isTextSpace c = true) → ∀ (node : Node) (source : Binding),
      node.strategy = .functionOfField source Transform.toNumber →
      ∀ (input : Value) (origin : String), input.get? source.name =
        some (.text (String.ofList front ++ (toString n ++ String.ofList back))) →
      (node.result input origin).outcome = Transform.toNumber.call (.text (toString n))) ∧
    ∀ number, Transform.toNumber.call (.number number) = .ok (.number number) := by
  refine ⟨rfl, Transform.toNumber_eq_iff, fun m hm hge hlt => ?_, ?_, fun number => rfl⟩
  · rw [hm]
    exact Transform.toNumber_of_onlyUnsigned ⟨hge, hlt⟩
  · intro front back hfront hback node source hs input origin hf
    have ht := Text.trim_toString_int n hfront hback
    rw [Node.outcome_of_field hs (by rw [hf, Option.getD_some]), Value.trimmed, ht]

def serialNode : Node := .mk "serial" .empty (.functionOfField counter Transform.toNumber)

theorem toNumber_undoes_toPlainText_iff_serial :
    Transform.toPlainText.call (.int (-9223372036854775808)) =
      .ok (.text "-9223372036854775808") ∧
    (serialNode.result (.object [("count", " -9223372036854775808\n")]) "erp").outcome =
      .ok (.int (-9223372036854775808)) ∧
    ∃ x, x.Nearest 11 18446744073709551615 ∧
      Transform.toNumber.call "18446744073709551615" = .ok (.number (.float x)) := by
  obtain ⟨written, read, -, trimmed, -⟩ := toNumber_undoes_toPlainText_iff (-9223372036854775808)
  obtain ⟨-, -, unsigned, -, -⟩ := toNumber_undoes_toPlainText_iff (18446744073709551615 : Nat)
  have hfront : ∀ c ∈ [' '], Text.isTextSpace c = true := List.forall_mem_singleton.mpr rfl
  have hback : ∀ c ∈ ['\n'], Text.isTextSpace c = true := List.forall_mem_singleton.mpr rfl
  refine ⟨written, ?_, unsigned _ rfl (by decide) (by decide)⟩
  rw [trimmed _ _ hfront hback serialNode counter rfl _ "erp" rfl]
  exact (read (by decide) (by decide)).mpr (by decide)

/-- Not every integer of 64 bits is read back. -/
theorem toNumber_loses_digits :
    ¬ ∀ n : Int, -signedBound ≤ n → n < 2 * signedBound →
      Transform.toNumber.call (.text (toString n)) = .ok (.int n) := by
  intro h
  have hclaim := h 18446744073709551615 (by decide) (by decide)
  rw [Transform.toNumber_eq_iff (by decide) (by decide)] at hclaim
  exact absurd hclaim (by decide)

end ToNumber

end Reshape
