import Mathlib.Data.List.TakeWhile
import Reshape.Text.Space
import Reshape.Transform.Builtin

/-!
# Decimal text of an integer

The decimal text of an integer is a minus sign if it is negative and then digits. Read back, it gives
the integer if that fits 64 bits with a sign, and otherwise the float nearest to it. There are no
blanks in it, so trimming takes away only what stands around it.
-/
namespace Reshape

theorem toDigits_all_isDigit (n : Nat) : (Nat.toDigits 10 n).all Char.isDigit = true :=
  List.all_eq_true.mpr fun _ hc => Nat.isDigit_of_mem_toDigits (by decide) (by decide) hc

theorem toList_toString_int (n : Int) :
    (toString n).toList =
      if n < 0 then '-' :: Nat.toDigits 10 n.natAbs else Nat.toDigits 10 n.natAbs := by
  rw [Int.toString_eq_repr, Int.repr_eq_if]
  by_cases h : n < 0
  · have hn : (-n).toNat = n.natAbs := by omega
    rw [if_neg (by omega), if_pos h, hn, String.toList_append, Nat.toList_repr]
    rfl
  · have hn : n.toNat = n.natAbs := by omega
    rw [if_pos (by omega), if_neg h, hn, Nat.toList_repr]

namespace Binary64

theorem digitsValue_toDigits (n : Nat) : digitsValue (Nat.toDigits 10 n) = n :=
  Nat.ofDigitChars_ten_toDigits

theorem takeSign_of_digits {cs : List Char} (h : cs.all Char.isDigit = true) :
    takeSign cs = (false, cs) := by
  unfold takeSign
  split
  · cases h
  · cases h
  · rfl

theorem takeSign_toString (n : Int) :
    takeSign (toString n).toList = (decide (n < 0), Nat.toDigits 10 n.natAbs) := by
  rw [toList_toString_int]
  by_cases h : n < 0
  · rw [if_pos h, decide_eq_true h]
    rfl
  · rw [if_neg h, takeSign_of_digits (toDigits_all_isDigit _), decide_eq_false h]

/-- Digits alone have no fraction and no exponent. -/
theorem decimalParts?_of_digits {cs : List Char} (hne : cs ≠ []) (h : cs.all Char.isDigit = true) :
    decimalParts? cs = some (cs, 0) := by
  have hd : cs.dropWhile Char.isDigit = [] := List.dropWhile_eq_nil_iff.mpr (List.all_eq_true.mp h)
  have ht : cs.takeWhile Char.isDigit = cs := List.takeWhile_eq_self_iff.mpr (List.all_eq_true.mp h)
  unfold decimalParts?
  rw [hd, ht]
  simp [exponentPart?, hne]

/-- Read as a number, the decimal text of an integer of at most 400 digits gives the nearest one. -/
theorem ofText?_toString {n : Int} (hlength : (Nat.toDigits 10 n.natAbs).length ≤ 400) :
    ofText? (toString n) = ofInt? n := by
  unfold ofText?
  rw [takeSign_toString]
  dsimp only
  rw [decimalParts?_of_digits Nat.toDigits_ne_nil (toDigits_all_isDigit _)]
  simp only [Option.bind_eq_bind, Option.bind_some, digitsValue_toDigits]
  by_cases h0 : n = 0
  · rw [h0]
    rfl
  · have habs : n.natAbs ≠ 0 := Int.natAbs_ne_zero.mpr h0
    rw [ofDecimal?, if_neg habs, if_neg (by omega), if_neg (by omega), ofInt?]
    simp

end Binary64

namespace Transform

theorem signedInteger?_toString (n : Int) :
    signedInteger? (toString n) = if Number.fitsSigned n then some n else none := by
  unfold signedInteger?
  rw [Binary64.takeSign_toString]
  simp only [List.isEmpty_eq_false_iff.mpr Nat.toDigits_ne_nil, toDigits_all_isDigit, Bool.not_true,
    Bool.or_false, Bool.false_eq_true, ↓reduceIte, Binary64.digitsValue_toDigits, decide_eq_true_eq]
  have hn : (if n < 0 then -(n.natAbs : Int) else n.natAbs) = n := by
    split <;> omega
  rw [hn]

theorem numberOfText?_toString_of_fits {n : Int} (h : Number.fitsSigned n = true) :
    numberOfText? (toString n) = some (.int n) := by
  rw [numberOfText?, signedInteger?_toString, if_pos h]

theorem numberOfText?_toString_of_not_fits {n : Int} (h : Number.fitsSigned n = false)
    (hlength : (Nat.toDigits 10 n.natAbs).length ≤ 400) :
    numberOfText? (toString n) = (Binary64.ofInt? n).map .float := by
  rw [numberOfText?, signedInteger?_toString, h, Binary64.ofText?_toString hlength]
  rfl

end Transform

namespace Text

theorem isTextSpace_of_isDigit {c : Char} (h : c.isDigit = true) : isTextSpace c = false := by
  have hc : 48 ≤ c.toNat ∧ c.toNat ≤ 57 := Char.isDigit_iff_toNat.mp h
  have hmark : (c == '\uFEFF') = false := by
    rw [beq_eq_false_iff_ne]
    rintro rfl
    cases h
  have hspace : isWhiteSpace c = false := by
    simp only [isWhiteSpace, Bool.or_eq_false_iff, Bool.and_eq_false_iff, decide_eq_false_iff_not,
      beq_eq_false_iff_ne]
    omega
  rw [isTextSpace, hspace, hmark]
  rfl

theorem isTextSpace_toString_int (n : Int) : ∀ c ∈ (toString n).toList, isTextSpace c = false := by
  intro c hc
  rw [toList_toString_int] at hc
  have hdigits : ∀ c ∈ Nat.toDigits 10 n.natAbs, isTextSpace c = false := fun c hc =>
    isTextSpace_of_isDigit (List.all_eq_true.mp (toDigits_all_isDigit _) c hc)
  split at hc
  · rcases List.mem_cons.mp hc with rfl | hd
    · decide
    · exact hdigits c hd
  · exact hdigits c hc

/-- Trimming leaves the text of an integer as it is and takes away blanks around it. -/
theorem trim_toString_int (n : Int) {front back : List Char}
    (hf : ∀ c ∈ front, isTextSpace c = true) (hb : ∀ c ∈ back, isTextSpace c = true) :
    trim isTextSpace (String.ofList front ++ (toString n ++ String.ofList back)) = toString n := by
  have hn := isTextSpace_toString_int n
  have h := trimList_append hf hb (fun c hc => hn c (List.mem_of_head? hc))
    (fun c hc => hn c (List.mem_of_getLast? hc))
  apply String.toList_inj.mp
  simpa using h

end Text
end Reshape
