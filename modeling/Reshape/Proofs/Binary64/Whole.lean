import Mathlib.Algebra.Order.Field.Rat
import Mathlib.Algebra.Order.Ring.Abs
import Mathlib.Tactic.NormNum
import Mathlib.Tactic.Ring
import Reshape.Binary64.Text

/-!
# Text of whole numbers

Of a whole number up to `2 ^ 53` the shortest decimal is the number itself: no other whole number
rounds to it that could be written with fewer digits. So its plain text has all its digits, those
included that the shortest decimal leaves to its place. Nothing is said about numbers beyond, whose
last digits are not written.
-/
namespace Reshape.Binary64

/-- The number that a float stands for. -/
def value (x : Binary64) : ℚ := (if x.negative then -1 else 1) * (x.significand * 2 ^ x.exponent)

section Digits

/-- A factor of ten is a zero at the end. -/
theorem toDigits_mul_ten_pow {n : Nat} (hn : 0 < n) (k : Nat) :
    Nat.toDigits 10 (n * 10 ^ k) = Nat.toDigits 10 n ++ List.replicate k '0' := by
  induction k with
  | zero => simp
  | succ k ih =>
    have hpos : 0 < n * 10 ^ k := Nat.mul_pos hn (Nat.pow_pos (by decide))
    have hsplit : n * 10 ^ (k + 1) = 10 * (n * 10 ^ k) + 0 := by ring
    rw [hsplit, ← Nat.toDigits_append_toDigits (by decide) hpos (by decide), ih,
      List.replicate_succ', List.append_assoc]
    rfl

end Digits

namespace RoundingInterval

/-- The reals that round to a whole number, where no other multiple of ten is among them. -/
structure Around (i : RoundingInterval) (n : Nat) : Prop where
  pos : 0 < i.denominator
  value_eq : i.value = n * i.denominator
  low_lt : i.low < i.value
  lt_high : i.value < i.high
  alone : ∀ m, 10 ∣ m → i.low ≤ m * i.denominator → m * i.denominator ≤ i.high → m = n

variable {i : RoundingInterval} {n m k : Nat} {tie : Tie}

theorem contains_natCast : i.contains m (k : Int) =
    if i.closed then i.low ≤ m * 10 ^ k * i.denominator && m * 10 ^ k * i.denominator ≤ i.high
    else i.low < m * 10 ^ k * i.denominator && m * 10 ^ k * i.denominator < i.high := by
  simp [contains]

/-- What rounds to the number lies between the ends. -/
theorem bounds_of_contains (h : i.contains m (k : Int) = true) :
    i.low ≤ m * 10 ^ k * i.denominator ∧ m * 10 ^ k * i.denominator ≤ i.high := by
  rw [contains_natCast] at h
  split at h <;> simp only [Bool.and_eq_true, decide_eq_true_eq] at h <;> omega

/-- What is chosen rounds to the number. -/
theorem contains_of_nearestMultiple? {place : Int} (h : i.nearestMultiple? tie place = some m) :
    i.contains m place = true := by
  unfold nearestMultiple? at h
  dsimp only at h
  split at h
  · next hf hs => split at h <;> cases h <;> assumption
  · next hf hs => cases h; assumption
  · next hf hs => cases h; assumption
  · cases h

namespace Around

theorem contains_of_eq (h : i.Around n) (hm : m * 10 ^ k = n) : i.contains m (k : Int) = true := by
  have hlow := h.low_lt
  have hhigh := h.lt_high
  rw [contains_natCast, hm, ← h.value_eq]
  split <;> simp only [Bool.and_eq_true, decide_eq_true_eq] <;> omega

/-- A multiple of ten, a hundred and so on that rounds to the number is the number. -/
theorem eq_of_contains (h : i.Around n) (hc : i.contains m ((k + 1 : Nat) : Int) = true) :
    m * 10 ^ (k + 1) = n := by
  obtain ⟨hl, hh⟩ := bounds_of_contains hc
  have hten : 10 ∣ m * 10 ^ (k + 1) := Dvd.dvd.mul_left (dvd_pow_self 10 k.succ_ne_zero) m
  exact h.alone _ hten hl hh

/-- Where the number is a multiple itself, it is chosen, whichever way a tie would go. -/
theorem nearestMultiple?_of_eq (h : i.Around n) (hm : m * 10 ^ k = n) :
    i.nearestMultiple? tie (k : Int) = some m := by
  have hunit : 0 < 10 ^ k * i.denominator := Nat.mul_pos (Nat.pow_pos (by decide)) h.pos
  have hvalue : i.value = m * (10 ^ k * i.denominator) := by
    rw [h.value_eq, ← hm, Nat.mul_assoc]
  have hself : i.contains m (k : Int) = true := h.contains_of_eq hm
  unfold nearestMultiple?
  simp only [Int.toNat_natCast, Int.toNat_neg_natCast, Nat.pow_eq, Nat.pow_zero, Nat.mul_one,
    hvalue, Nat.mul_div_cancel _ hunit, Nat.mul_mod_left, hself]
  split
  · rw [if_pos (by simp [hunit])]
  · rfl
  · next hf _ => cases hf
  · next hf _ => cases hf

/-- The search ends at the number itself, as a multiple of a power of ten. -/
theorem exists_search (h : i.Around n) (tie : Tie) (places : Nat) :
    ∃ m k : Nat, i.search tie (places + 343) = some (m, (k : Int)) ∧ m * 10 ^ k = n := by
  have place (steps : Nat) : ((steps + 342 : Nat) : Int) - 342 = (steps : Int) := by omega
  induction places with
  | zero =>
    have hn : i.nearestMultiple? tie ((0 : Nat) : Int) = some n :=
      h.nearestMultiple?_of_eq (by simp)
    refine ⟨n, 0, ?_, by simp⟩
    rw [search, place 0, hn]
  | succ places ih =>
    rw [Nat.succ_add, search, show places + 343 = (places + 1) + 342 from rfl, place (places + 1)]
    cases hn : i.nearestMultiple? tie ((places + 1 : Nat) : Int) with
    | none => exact ih
    | some m => exact ⟨m, places + 1, rfl, h.eq_of_contains (contains_of_nearestMultiple? hn)⟩

end Around
end RoundingInterval

section Whole

variable {x : Binary64} {n : Int}

theorem two_pow_toNat (k : Int) : (2 : ℚ) ^ k.toNat = 2 ^ k * 2 ^ (-k).toNat := by
  rw [← zpow_natCast, ← zpow_natCast, ← zpow_add₀ (by decide)]
  congr 1
  omega

/-- The magnitude of a whole number. -/
theorem magnitude_of_value (hx : x.value = n) :
    (x.significand : ℚ) * 2 ^ x.exponent = n.natAbs := by
  have hmagnitude : (0 : ℚ) ≤ x.significand * 2 ^ x.exponent :=
    mul_nonneg (Nat.cast_nonneg _) (zpow_nonneg (by decide) _)
  have habs : |x.value| = x.significand * 2 ^ x.exponent := by
    rw [value, abs_mul, abs_of_nonneg hmagnitude]
    cases x.negative <;> simp
  rw [← habs, hx, Nat.cast_natAbs, Int.cast_abs]

/-- The sign of a whole number other than zero. -/
theorem negative_of_value (hx : x.value = n) (hn : n ≠ 0) : x.negative = decide (n < 0) := by
  have hm := magnitude_of_value hx
  rw [value, hm] at hx
  cases hs : x.negative with
  | true =>
    rw [hs, if_pos rfl, neg_one_mul, ← Int.cast_natCast, ← Int.cast_neg, Int.cast_inj] at hx
    exact (decide_eq_true (by omega)).symm
  | false =>
    rw [hs, if_neg (by decide), one_mul, ← Int.cast_natCast, Int.cast_inj] at hx
    exact (decide_eq_false (by omega)).symm

theorem significand_eq_zero_iff (hx : x.value = n) : x.significand = 0 ↔ n = 0 := by
  have hm := magnitude_of_value hx
  have hpow : (2 : ℚ) ^ x.exponent ≠ 0 := zpow_ne_zero _ (by decide)
  rw [← Int.natAbs_eq_zero, ← Nat.cast_eq_zero (R := ℚ) (n := n.natAbs), ← hm, mul_eq_zero,
    or_iff_left hpow, Nat.cast_eq_zero]

/-- The rounding interval of a whole number has it in its scale. -/
theorem value_roundingInterval (hx : x.value = n) :
    4 * x.significand * 2 ^ (x.exponent - 2).toNat = n.natAbs * 2 ^ (2 - x.exponent).toNat := by
  have hneg : -(x.exponent - 2) = 2 - x.exponent := by omega
  have hexp : (4 : ℚ) * 2 ^ (x.exponent - 2) = 2 ^ x.exponent := by
    rw [show (4 : ℚ) = 2 ^ (2 : Int) by rfl, ← zpow_add₀ (by decide)]
    congr 1
    omega
  rw [← Nat.cast_inj (R := ℚ)]
  push_cast
  calc (4 : ℚ) * x.significand * 2 ^ (x.exponent - 2).toNat
      = x.significand * (4 * 2 ^ (x.exponent - 2)) * 2 ^ (2 - x.exponent).toNat := by
        rw [two_pow_toNat, hneg]
        ring
    _ = n.natAbs * 2 ^ (2 - x.exponent).toNat := by rw [hexp, magnitude_of_value hx]

/-- A whole number of at most `2 ^ 53` has a last bit that counts at most two. -/
theorem exponent_le_one (hx : x.value = n) (hn : n.natAbs ≤ 2 ^ 53) : x.exponent ≤ 1 := by
  by_contra he
  have hscale := value_roundingInterval hx
  have hfull : 0x10000000000000 ≤ x.significand := x.normal.resolve_right (by omega)
  have hpow : 1 ≤ 2 ^ (x.exponent - 2).toNat := Nat.one_le_two_pow
  have hle := Nat.mul_le_mul_left (4 * x.significand) hpow
  rw [show (2 - x.exponent).toNat = 0 by omega, Nat.pow_zero] at hscale
  omega

/-- Multiples of a unit that are less than the unit apart are the same. -/
theorem eq_of_mul_near {m n unit : Nat} (hlow : n * unit < (m + 1) * unit)
    (hhigh : m * unit < (n + 1) * unit) : m = n :=
  Nat.le_antisymm (Nat.le_of_lt_succ (Nat.lt_of_mul_lt_mul_right hhigh))
    (Nat.le_of_lt_succ (Nat.lt_of_mul_lt_mul_right hlow))

/-- Around a whole number of at most `2 ^ 53` the numbers are dense. -/
theorem roundingInterval_around (hx : x.value = n) (hn : n.natAbs ≤ 2 ^ 53) (h0 : n ≠ 0) :
    x.roundingInterval.Around n.natAbs := by
  have he := exponent_le_one hx hn
  have hscale := value_roundingInterval hx
  have hup : (x.exponent - 2).toNat = 0 := by omega
  have hsig : x.significand ≠ 0 := fun hs => h0 ((significand_eq_zero_iff hx).mp hs)
  obtain ⟨below, hbelow, hb⟩ : ∃ below, below =
      (if x.significand = leastFull ∧ -1074 < x.exponent then 1 else 2) ∧ 1 ≤ below ∧ below ≤ 2 :=
    ⟨_, rfl, by split <;> omega⟩
  rw [hup, Nat.pow_zero, Nat.mul_one] at hscale
  have hi : x.roundingInterval = ⟨4 * x.significand - below, 4 * x.significand,
      4 * x.significand + 2, 2 ^ (2 - x.exponent).toNat, x.significand % 2 = 0⟩ := by
    rw [roundingInterval, ← hbelow, hup]
    simp
  rw [hi]
  refine ⟨Nat.two_pow_pos _, hscale, by dsimp only; omega, by dsimp only; omega, ?_⟩
  intro m hten hlow hhigh
  dsimp only at hlow hhigh
  rw [hscale] at hlow hhigh
  by_cases h1 : x.exponent = 1
  · -- only `2 ^ 53` itself is left, and there is no multiple of ten next to it
    have hfull : 0x10000000000000 ≤ x.significand := x.normal.resolve_right (by omega)
    rw [h1] at hscale hlow hhigh
    norm_num at hscale hlow hhigh
    omega
  · obtain ⟨j, hj⟩ : ∃ j, (2 - x.exponent).toNat = j + 2 := ⟨(-x.exponent).toNat, by omega⟩
    have hfour : 4 ≤ 2 ^ (2 - x.exponent).toNat := by
      rw [hj, Nat.pow_add]
      exact Nat.le_mul_of_pos_left 4 (Nat.two_pow_pos j)
    generalize 2 ^ (2 - x.exponent).toNat = unit at *
    have hbelow : n.natAbs * unit < (m + 1) * unit := by rw [Nat.succ_mul]; omega
    have habove : m * unit < (n.natAbs + 1) * unit := by rw [Nat.succ_mul]; omega
    exact eq_of_mul_near hbelow habove

/-- The shortest decimal of a whole number of at most `2 ^ 53` is the number itself. -/
theorem exists_shortest (hx : x.value = n) (hn : n.natAbs ≤ 2 ^ 53) (tie : Tie) :
    ∃ m k : Nat, x.shortest tie = ⟨m, k⟩ ∧ m * 10 ^ k = n.natAbs ∧ (m = 0 → k = 0) := by
  by_cases h0 : n = 0
  · refine ⟨0, 0, ?_, by simp [h0], fun _ => rfl⟩
    rw [shortest, if_pos ((significand_eq_zero_iff hx).mpr h0)]
    rfl
  · have hsig : x.significand ≠ 0 := fun hs => h0 ((significand_eq_zero_iff hx).mp hs)
    obtain ⟨m, k, hsearch, hm⟩ := (roundingInterval_around hx hn h0).exists_search tie
      (Nat.toDigits 10 (x.roundingInterval.value / x.roundingInterval.denominator)).length
    refine ⟨m, k, ?_, hm, fun hz => ?_⟩
    · rw [shortest, if_neg hsig]
      dsimp only
      rw [hsearch]
    · rw [hz, Nat.zero_mul] at hm
      exact absurd (Int.natAbs_eq_zero.mp hm.symm) h0

/-- The plain text of a whole number of at most `2 ^ 53` is its sign and its digits. -/
theorem text_plain_of_value (hx : x.value = n) (hn : n.natAbs ≤ 2 ^ 53) :
    (x.text .plain).toList =
      (if x.negative then ['-'] else []) ++ Nat.toDigits 10 n.natAbs := by
  obtain ⟨m, k, hshort, hm, hz⟩ := exists_shortest hx hn .up
  have hdigits : Nat.toDigits 10 m ++ List.replicate k '0' = Nat.toDigits 10 n.natAbs := by
    rw [← hm]
    rcases Nat.eq_zero_or_pos m with h0 | hpos
    · rw [hz h0, h0]
      rfl
    · exact (toDigits_mul_ten_pow hpos k).symm
  have htext : x.text .plain = (if x.negative then "-" else "") ++
      Layout.plain.positionalText (Nat.toDigits 10 m) k := by
    simp only [text, Layout.plain, hshort, if_true]
  rw [htext, String.toList_append, Layout.toList_positionalText _ _ (Int.natCast_nonneg k),
    Int.toNat_natCast, hdigits]
  cases x.negative <;> simp [Layout.plain]

end Whole

end Reshape.Binary64
