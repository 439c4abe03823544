import Mathlib.Tactic.Ring
import Reshape.Binary64

/-!
# Rounding of large numbers

A quotient of at least `2 ^ 52` becomes a whole number, the nearest multiple of a power of two, which
is fixed by the magnitude of the quotient. From `2 ^ 54` on the multiples are so far apart that adding
one changes nothing.
-/
namespace Reshape.Binary64

section Quotient

theorem divRoundEven_cases (num den : Nat) :
    (divRoundEven num den = num / den ∧ 2 * (num % den) ≤ den) ∨
      (divRoundEven num den = num / den + 1 ∧ den ≤ 2 * (num % den)) := by
  unfold divRoundEven
  dsimp only
  split
  · exact .inl ⟨rfl, by omega⟩
  · split
    · exact .inr ⟨rfl, by omega⟩
    · split
      · exact .inl ⟨rfl, by omega⟩
      · exact .inr ⟨rfl, by omega⟩

theorem divRoundEven_mul_add {rest den : Nat} (h : 2 * rest < den) (num : Nat) :
    divRoundEven (num * den + rest) den = num := by
  have hm : (num * den + rest) % den = rest := by
    rw [Nat.mul_add_mod_self_right, Nat.mod_eq_of_lt (by omega)]
  have hd : (num * den + rest) / den = num := by
    rw [Nat.mul_comm, Nat.mul_add_div (by omega), Nat.div_eq_of_lt (by omega), Nat.add_zero]
  rcases divRoundEven_cases (num * den + rest) den with ⟨hr, -⟩ | ⟨-, hr⟩
  · rw [hr, hd]
  · omega

/-- The rounded quotient is at most half a unit off. -/
theorem divRoundEven_near (num : Nat) {den : Nat} (hd : 0 < den) :
    2 * num ≤ 2 * (divRoundEven num den * den) + den ∧
      2 * (divRoundEven num den * den) ≤ 2 * num + den := by
  have hdm := Nat.div_add_mod' num den
  have hlt := Nat.mod_lt num hd
  rcases divRoundEven_cases num den with ⟨hr, hm⟩ | ⟨hr, hm⟩
  · rw [hr]
    omega
  · rw [hr, Nat.add_one_mul (num / den) den]
    omega

theorem le_divRoundEven {num den bound : Nat} (hd : 0 < den) (h : bound * den ≤ num) :
    bound ≤ divRoundEven num den := by
  have hq : bound ≤ num / den := (Nat.le_div_iff_mul_le hd).mpr h
  rcases divRoundEven_cases num den with ⟨hr, -⟩ | ⟨hr, -⟩ <;> omega

theorem divRoundEven_le {num den bound : Nat} (h : num < bound * den) :
    divRoundEven num den ≤ bound := by
  have hq : num / den < bound := Nat.div_lt_of_lt_mul (by rwa [Nat.mul_comm])
  rcases divRoundEven_cases num den with ⟨hr, -⟩ | ⟨hr, -⟩ <;> omega

end Quotient

section Large

variable {num den k : Nat}

theorem pow_two_add_52 (k : Nat) : 2 ^ (k + 52) = leastFull * 2 ^ k := by
  rw [Nat.pow_add, Nat.mul_comm]

theorem scaleRatio_natCast (num den k : Nat) :
    scaleRatio num den (k : Int) = (num, den * 2 ^ k) := by
  simp [scaleRatio]

theorem ne_zero_of_bounds (low : leastFull * (den * 2 ^ k) ≤ num)
    (high : num < 2 * leastFull * (den * 2 ^ k)) : den ≠ 0 ∧ num ≠ 0 := by
  have hpos : 0 < den * 2 ^ k := by
    by_contra hn
    rw [Nat.eq_zero_of_not_pos hn] at high
    omega
  have hfull : 0 < leastFull * (den * 2 ^ k) := Nat.mul_pos (by decide) hpos
  exact ⟨(Nat.pos_of_mul_pos_right hpos).ne', by omega⟩

/-- Of a quotient that is at least `2 ^ 52`, the place of the last bit that its significand has. -/
theorem ratioExponent_of_bounds (low : leastFull * (den * 2 ^ k) ≤ num)
    (high : num < 2 * leastFull * (den * 2 ^ k)) : ratioExponent num den = k := by
  obtain ⟨hden, hnum⟩ := ne_zero_of_bounds low high
  have hl : 2 ^ (den.log2 + (k + 52)) ≤ num := by
    calc 2 ^ (den.log2 + (k + 52)) = 2 ^ den.log2 * (leastFull * 2 ^ k) := by
          rw [Nat.pow_add, pow_two_add_52]
      _ ≤ den * (leastFull * 2 ^ k) := Nat.mul_le_mul_right _ (Nat.log2_self_le hden)
      _ = leastFull * (den * 2 ^ k) := by ring
      _ ≤ num := low
  have hh : num < 2 ^ (den.log2 + (k + 52) + 2) := by
    calc num < 2 * leastFull * (den * 2 ^ k) := high
      _ = 2 * (leastFull * 2 ^ k) * den := by ring
      _ ≤ 2 * (leastFull * 2 ^ k) * 2 ^ (den.log2 + 1) :=
          Nat.mul_le_mul_left _ Nat.lt_log2_self.le
      _ = 2 ^ (den.log2 + (k + 52) + 2) := by
          rw [← pow_two_add_52]
          ring
  have hlow := (Nat.le_log2 hnum).mpr hl
  have hhigh := (Nat.log2_lt hnum).mpr hh
  -- the difference of the logarithms is right or one too large
  obtain hg | hg : (num.log2 : Int) - den.log2 = (k + 52 : Nat) ∨
      (num.log2 : Int) - den.log2 = (k + 53 : Nat) := by omega
  · have hle : den * 2 ^ (k + 52) ≤ num := by
      rw [pow_two_add_52, Nat.mul_left_comm]
      exact low
    rw [ratioExponent, hg, scaleRatio_natCast]
    dsimp only
    rw [if_pos hle]
    omega
  · have hlt : ¬ den * 2 ^ (k + 53) ≤ num := by
      rw [Nat.pow_succ, pow_two_add_52]
      have hcomm : den * (leastFull * 2 ^ k * 2) = 2 * leastFull * (den * 2 ^ k) := by ring
      omega
    rw [ratioExponent, hg, scaleRatio_natCast]
    dsimp only
    rw [if_neg hlt]
    omega

theorem ofRatio?_of_bounds (negative : Bool) (low : leastFull * (den * 2 ^ k) ≤ num)
    (high : num < 2 * leastFull * (den * 2 ^ k)) :
    ofRatio? negative num den =
      if divRoundEven num (den * 2 ^ k) = significandBound then ofParts? negative leastFull (k + 1)
      else ofParts? negative (divRoundEven num (den * 2 ^ k)) k := by
  obtain ⟨hden, hnum⟩ := ne_zero_of_bounds low high
  rw [ofRatio?, if_neg hden, if_neg hnum]
  dsimp only
  rw [ratioExponent_of_bounds low high, scaleRatio_natCast]

/-- A float without a minus sign is a whole multiple of `2 ^ k`, and no such multiple is nearer to an
integer. -/
structure Nearest (k n : Nat) (x : Binary64) : Prop where
  nonnegative : x.negative = false
  full : leastFull ≤ x.significand
  exponent_ge : (k : Int) ≤ x.exponent
  multiple : ∃ m, x.ratio = (m * 2 ^ k, 1) ∧ 2 * n ≤ 2 * (m * 2 ^ k) + 2 ^ k ∧
    2 * (m * 2 ^ k) ≤ 2 * n + 2 ^ k

theorem ratio_of_exponent {x : Binary64} {k : Nat} (h : x.exponent = k) :
    x.ratio = (x.significand * 2 ^ k, 1) := by
  simp [ratio, h]

/-- An integer of at least `2 ^ 52` is rounded to a multiple of a power of two. -/
theorem exists_ofInt?_nearest {n : Nat} (low : leastFull * 2 ^ k ≤ n)
    (high : n < 2 * leastFull * 2 ^ k) (hk : k ≤ 970) : ∃ x, ofInt? n = some x ∧ x.Nearest k n := by
  have hpos : 0 < 2 ^ k := Nat.two_pow_pos k
  have hle : leastFull ≤ divRoundEven n (2 ^ k) := le_divRoundEven hpos low
  have hge : divRoundEven n (2 ^ k) ≤ significandBound := divRoundEven_le high
  have hnear := divRoundEven_near n hpos
  have ho : ofInt? n = if divRoundEven n (2 ^ k) = significandBound
      then ofParts? false leastFull (k + 1) else ofParts? false (divRoundEven n (2 ^ k)) k := by
    have hr : ofRatio? false n 1 = _ := ofRatio?_of_bounds (k := k) false (by rwa [Nat.one_mul])
      (by rwa [Nat.one_mul])
    rwa [Nat.one_mul] at hr
  by_cases hc : divRoundEven n (2 ^ k) = significandBound
  · -- the multiple is a power of two itself, which has one more place
    rw [hc] at hnear
    rw [if_pos hc] at ho
    let x : Binary64 := ⟨false, leastFull, (k + 1 : Nat), by decide, by omega, by omega, .inl le_rfl⟩
    have hx : x.ratio = (leastFull * 2 ^ (k + 1), 1) := ratio_of_exponent rfl
    refine ⟨x, ho.trans (ofParts?_self x), rfl, le_rfl, by simp [x], significandBound, ?_, hnear⟩
    rw [hx, Nat.pow_succ', ← Nat.mul_assoc]
    rfl
  · rw [if_neg hc] at ho
    let x : Binary64 := ⟨false, divRoundEven n (2 ^ k), k, by omega, by omega, by omega, .inl hle⟩
    have hx : x.ratio = (divRoundEven n (2 ^ k) * 2 ^ k, 1) := ratio_of_exponent rfl
    exact ⟨x, ho.trans (ofParts?_self x), rfl, hle, le_rfl, divRoundEven n (2 ^ k), hx, hnear⟩

/-- The sum of numbers without a minus sign is the rounded sum of their quotients. -/
theorem add?_of_nonnegative {x y : Binary64} {a b c d : Nat} (hx : x.negative = false)
    (hy : y.negative = false) (hxr : x.ratio = (a, b)) (hyr : y.ratio = (c, d))
    (hs : a * d + c * b ≠ 0) : x.add? y = ofRatio? false (a * d + c * b) (b * d) := by
  have hn : ¬ ((a * d + c * b : Nat) : Int) < 0 := by omega
  rw [add?, hxr, hyr]
  simp only [hx, hy, Bool.false_eq_true, ↓reduceIte, ← Int.natCast_add, Int.natCast_eq_zero, hs,
    Int.natAbs_natCast, hn, decide_false]

def one : Binary64 :=
  ⟨false, leastFull, -52, by decide, by decide, by decide, .inl le_rfl⟩

theorem ofInt?_one : ofInt? 1 = some one := by decide

theorem ratio_one : one.ratio = (leastFull, leastFull) := by decide

/-- A number whose last bit counts four or more stays the same when one is added. -/
theorem add?_one {x : Binary64} (hx : x.negative = false) (full : leastFull ≤ x.significand)
    (he : 2 ≤ x.exponent) : x.add? one = some x := by
  obtain ⟨k, hk⟩ := Int.eq_ofNat_of_zero_le (by omega : 0 ≤ x.exponent)
  obtain ⟨unit, hu⟩ : ∃ unit, unit = leastFull * 2 ^ k := ⟨_, rfl⟩
  have hfull : 0 < leastFull := by decide
  have hunit : 4 * leastFull ≤ unit := by
    have hpow : 2 ^ 2 ≤ 2 ^ k := Nat.pow_le_pow_right (by decide) (by omega)
    rw [hu, Nat.mul_comm]
    exact Nat.mul_le_mul_left _ hpow
  have hadd : x.add? one = ofRatio? false (x.significand * unit + leastFull) leastFull := by
    have hsum : x.significand * 2 ^ k * leastFull + leastFull * 1 =
        x.significand * unit + leastFull := by
      rw [hu]
      ring
    rw [add?_of_nonnegative hx rfl (ratio_of_exponent hk) ratio_one (by omega), hsum, Nat.one_mul]
  have hround := divRoundEven_mul_add (by omega : 2 * leastFull < unit) x.significand
  have hlow : leastFull * unit ≤ x.significand * unit + leastFull :=
    Nat.le_add_right_of_le (Nat.mul_le_mul_right unit full)
  have hlt : x.significand < 2 * leastFull := x.significand_lt
  have hhigh : x.significand * unit + leastFull < 2 * leastFull * unit := by
    have hle : (x.significand + 1) * unit ≤ 2 * leastFull * unit :=
      Nat.mul_le_mul_right unit hlt
    rw [Nat.add_one_mul] at hle
    omega
  rw [hu] at hlow hhigh hround
  rw [hadd, hu, ofRatio?_of_bounds false hlow hhigh, hround, if_neg x.significand_lt.ne, ← hx, ← hk,
    ofParts?_self]

end Large

end Reshape.Binary64
