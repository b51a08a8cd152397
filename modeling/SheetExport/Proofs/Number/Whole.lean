import Mathlib.Algebra.Field.Rat
import SheetExport.Number.Binary64

/-! # Whole numbers as floating-point numbers

A whole number is rounded to a significand of 53 bits. Rounding keeps the order of whole numbers, although it may make
two of them equal; up to `2 ^ 53` it keeps them apart.
-/

namespace SheetExport.Binary64

variable {m n d : Nat}

/-! ## Halves to even -/

theorem roundHalfEven_eq (n d : Nat) :
    roundHalfEven n d = n / d + if d < 2 * (n % d) + n / d % 2 then 1 else 0 := by
  rw [roundHalfEven]
  split
  · rw [if_neg (by omega)]
    rfl
  · split
    · rw [if_pos (by omega)]
    · split
      · rw [if_neg (by omega)]
        rfl
      · rw [if_pos (by omega)]

theorem roundHalfEven_bounds (n d : Nat) : n / d ≤ roundHalfEven n d ∧ roundHalfEven n d ≤ n / d + 1 := by
  rw [roundHalfEven_eq]
  split <;> omega

theorem roundHalfEven_mono (d : Nat) (le : m ≤ n) : roundHalfEven m d ≤ roundHalfEven n d := by
  rcases Nat.lt_or_eq_of_le (Nat.div_le_div_right (c := d) le) with apart | same
  · have upper := (roundHalfEven_bounds m d).2
    have lower := (roundHalfEven_bounds n d).1
    omega
  · -- The quotients are the same, so the remainders decide.
    have left := Nat.div_add_mod m d
    have right := Nat.div_add_mod n d
    rw [same] at left
    have rest : m % d ≤ n % d := by omega
    rw [roundHalfEven_eq, roundHalfEven_eq, same]
    split <;> split <;> omega

theorem roundHalfEven_mul (k : Nat) (positive : 0 < d) : roundHalfEven (k * d) d = k := by
  simp [roundHalfEven, Nat.mul_div_cancel k positive, positive]

/-! ## Significands -/

/-- The significand to which a whole number is rounded. -/
def wholeSignificand (n : Nat) : Nat :=
  if n.log2 < 52 then n * 2 ^ (52 - n.log2) else roundHalfEven n (2 ^ (n.log2 - 52))

theorem floorLog2_one (positive : n ≠ 0) : floorLog2 n 1 = n.log2 := by
  have reaches : 2 ^ n.log2 ≤ n := Nat.log2_self_le positive
  have one : Nat.log2 1 = 0 := by decide
  simp [floorLog2, one, reaches]

theorem nearestMagnitude_one (positive : n ≠ 0) :
    nearestMagnitude n 1 = min ((n.log2 + 1022) * 2 ^ 52 + wholeSignificand n) infinity := by
  have lowest : max ((n.log2 : Int) - 52) (-1074) = (n.log2 : Int) - 52 := by omega
  have exponent : ((n.log2 : Int) - 52 + 1074).toNat = n.log2 + 1022 := by omega
  simp only [nearestMagnitude, if_neg positive, floorLog2_one positive, wholeSignificand, lowest, exponent]
  by_cases small : n.log2 < 52
  · have places : (-((n.log2 : Int) - 52)).toNat = 52 - n.log2 := by omega
    have whole := roundHalfEven_mul (n * 2 ^ (52 - n.log2)) Nat.one_pos
    rw [Nat.mul_one] at whole
    rw [if_neg (by omega), places, whole, if_pos small]
  · have places : ((n.log2 : Int) - 52).toNat = n.log2 - 52 := by omega
    rw [if_pos (by omega), places, Nat.one_mul, if_neg small]

theorem wholeSignificand_bounds (positive : n ≠ 0) : 2 ^ 52 ≤ wholeSignificand n ∧ wholeSignificand n ≤ 2 ^ 53 := by
  have lower := Nat.log2_self_le positive
  have upper := Nat.lt_log2_self (n := n)
  rw [wholeSignificand]
  split
  · rename_i small
    have first : 2 ^ n.log2 * 2 ^ (52 - n.log2) = 2 ^ 52 := by rw [← Nat.pow_add]; congr 1; omega
    have next : 2 ^ (n.log2 + 1) * 2 ^ (52 - n.log2) = 2 ^ 53 := by rw [← Nat.pow_add]; congr 1; omega
    exact ⟨first ▸ Nat.mul_le_mul_right _ lower, next ▸ Nat.mul_le_mul_right _ (Nat.le_of_lt upper)⟩
  · rename_i large
    have first : 2 ^ 52 * 2 ^ (n.log2 - 52) = 2 ^ n.log2 := by rw [← Nat.pow_add]; congr 1; omega
    have next : 2 ^ 53 * 2 ^ (n.log2 - 52) = 2 ^ (n.log2 + 1) := by rw [← Nat.pow_add]; congr 1; omega
    have reached : 2 ^ 52 ≤ n / 2 ^ (n.log2 - 52) := (Nat.le_div_iff_mul_le (Nat.two_pow_pos _)).mpr (first ▸ lower)
    have kept : n / 2 ^ (n.log2 - 52) < 2 ^ 53 := (Nat.div_lt_iff_lt_mul (Nat.two_pow_pos _)).mpr (next ▸ upper)
    have rounded := roundHalfEven_bounds n (2 ^ (n.log2 - 52))
    omega

theorem log2_mono (le : m ≤ n) (positive : m ≠ 0) : m.log2 ≤ n.log2 :=
  (Nat.le_log2 (by omega)).mpr (Nat.le_trans (Nat.log2_self_le positive) le)

/-- Of whole numbers with equally many bits the greater has no smaller significand. -/
theorem wholeSignificand_mono (le : m ≤ n) (same : m.log2 = n.log2) : wholeSignificand m ≤ wholeSignificand n := by
  rw [wholeSignificand, wholeSignificand, same]
  split
  · exact Nat.mul_le_mul_right _ le
  · exact roundHalfEven_mono _ le

theorem wholeSignificand_of_small (small : n < 2 ^ 53) : wholeSignificand n = n * 2 ^ (52 - n.log2) := by
  rw [wholeSignificand]
  split
  · rfl
  · rename_i large
    have bits : n.log2 = 52 := by
      by_cases zero : n = 0
      · subst zero
        exact absurd (by decide) large
      · have fits := (Nat.log2_lt zero).mpr small
        omega
    simp only [bits, Nat.sub_self, Nat.pow_zero, Nat.mul_one]
    simpa using roundHalfEven_mul n Nat.one_pos

theorem wholeSignificand_lt (positive : n ≠ 0) (small : n < 2 ^ 53) : wholeSignificand n < 2 ^ 53 := by
  have bits : n.log2 < 53 := (Nat.log2_lt positive).mpr small
  have next : 2 ^ (n.log2 + 1) * 2 ^ (52 - n.log2) = 2 ^ 53 := by rw [← Nat.pow_add]; congr 1; omega
  rw [wholeSignificand_of_small small]
  exact next ▸ Nat.mul_lt_mul_of_pos_right Nat.lt_log2_self (Nat.two_pow_pos _)

/-! ## The order of magnitudes -/

theorem nearestMagnitude_mono (le : m ≤ n) : nearestMagnitude m 1 ≤ nearestMagnitude n 1 := by
  by_cases zero : m = 0
  · rw [zero]
    exact Nat.zero_le _
  · have positive : n ≠ 0 := by omega
    have lower := wholeSignificand_bounds positive
    have upper := wholeSignificand_bounds zero
    rw [nearestMagnitude_one zero, nearestMagnitude_one positive]
    rcases Nat.lt_or_eq_of_le (log2_mono le zero) with apart | same
    · omega
    · have significands := wholeSignificand_mono le same
      omega

theorem nearestMagnitude_of_small (positive : n ≠ 0) (small : n ≤ 2 ^ 53) :
    nearestMagnitude n 1 = (n.log2 + 1022) * 2 ^ 52 + wholeSignificand n := by
  have bits : n.log2 < 54 := (Nat.log2_lt positive).mpr (by omega)
  have significand := wholeSignificand_bounds positive
  rw [nearestMagnitude_one positive, infinity]
  omega

/-- No two whole numbers up to `2 ^ 53` are rounded to one. -/
theorem nearestMagnitude_lt (lt : m < n) (small : n ≤ 2 ^ 53) : nearestMagnitude m 1 < nearestMagnitude n 1 := by
  have positive : n ≠ 0 := by omega
  have lower := wholeSignificand_bounds positive
  rw [nearestMagnitude_of_small positive small]
  by_cases zero : m = 0
  · rw [zero, nearestMagnitude, if_pos rfl]
    omega
  · have upper := wholeSignificand_lt zero (by omega)
    rw [nearestMagnitude_of_small zero (by omega)]
    rcases Nat.lt_or_eq_of_le (log2_mono (Nat.le_of_lt lt) zero) with apart | same
    · omega
    · -- Equally many bits are shifted by equally many places.
      have fewer : n < 2 ^ 53 := by
        have bits : m.log2 < 53 := (Nat.log2_lt zero).mpr (by omega)
        exact (Nat.log2_lt positive).mp (same ▸ bits)
      rw [wholeSignificand_of_small (lt.trans fewer), wholeSignificand_of_small fewer, same]
      exact Nat.add_lt_add_left (Nat.mul_lt_mul_of_pos_right lt (Nat.two_pow_pos _)) _

/-! ## Whole numbers with a sign -/

theorem nearestMagnitude_le_infinity (n d : Nat) : nearestMagnitude n d ≤ infinity := by
  rw [nearestMagnitude]
  split
  · exact Nat.zero_le _
  · exact Nat.min_le_right _ _

theorem toNat_ofMagnitude (negative : Bool) {magnitude : Nat} (fits : magnitude ≤ infinity) :
    (ofMagnitude negative magnitude).bits.toNat = (if negative then 2 ^ 63 else 0) + magnitude := by
  rw [infinity] at fits
  rw [ofMagnitude, UInt64.toNat_ofNat']
  refine Nat.mod_eq_of_lt ?_
  split <;> omega

theorem magnitude_ofMagnitude (negative : Bool) {magnitude : Nat} (fits : magnitude ≤ infinity) :
    (ofMagnitude negative magnitude).magnitude = magnitude := by
  rw [Binary64.magnitude, toNat_ofMagnitude negative fits]
  rw [infinity] at fits
  split <;> omega

theorem isNegative_ofMagnitude (negative : Bool) {magnitude : Nat} (fits : magnitude ≤ infinity) :
    (ofMagnitude negative magnitude).isNegative = negative := by
  rw [isNegative, toNat_ofMagnitude negative fits]
  rw [infinity] at fits
  cases negative with
  | false => exact decide_eq_false (by simp; omega)
  | true => exact decide_eq_true (by simp)

theorem magnitude_ofInt (n : Int) : (ofInt n).magnitude = nearestMagnitude n.natAbs 1 :=
  magnitude_ofMagnitude _ (nearestMagnitude_le_infinity _ _)

theorem isNegative_ofInt (n : Int) : (ofInt n).isNegative = decide (n < 0) :=
  isNegative_ofMagnitude _ (nearestMagnitude_le_infinity _ _)

@[simp] theorem isNaN_ofInt (n : Int) : (ofInt n).isNaN = false := by
  rw [isNaN, magnitude_ofInt]
  exact decide_eq_false (Nat.not_lt.mpr (nearestMagnitude_le_infinity _ _))

theorem rank_ofInt (n : Int) :
    (ofInt n).rank = if n < 0 then -(nearestMagnitude n.natAbs 1 : Int) else nearestMagnitude n.natAbs 1 := by
  rw [rank, magnitude_ofInt, isNegative_ofInt]
  simp only [decide_eq_true_eq]

theorem rank_ofInt_mono {m n : Int} (le : m ≤ n) : (ofInt m).rank ≤ (ofInt n).rank := by
  have growing : n < 0 → nearestMagnitude n.natAbs 1 ≤ nearestMagnitude m.natAbs 1 :=
    fun _ => nearestMagnitude_mono (by omega)
  have positive : ¬ m < 0 → nearestMagnitude m.natAbs 1 ≤ nearestMagnitude n.natAbs 1 :=
    fun _ => nearestMagnitude_mono (by omega)
  rw [rank_ofInt, rank_ofInt]
  split <;> split <;> omega

/-- Whole numbers up to `2 ^ 53` are as far apart as numbers can be compared. -/
theorem rank_ofInt_lt {m n : Int} (lt : m < n) (left : m.natAbs ≤ 2 ^ 53) (right : n.natAbs ≤ 2 ^ 53) :
    (ofInt m).rank < (ofInt n).rank := by
  have zero : nearestMagnitude 0 1 = 0 := rfl
  rw [rank_ofInt, rank_ofInt]
  split
  · have below := nearestMagnitude_lt (m := 0) (n := m.natAbs) (by omega) left
    split
    · have growing := nearestMagnitude_lt (m := n.natAbs) (n := m.natAbs) (by omega) left
      omega
    · omega
  · have growing := nearestMagnitude_lt (m := m.natAbs) (n := n.natAbs) (by omega) right
    rw [if_neg (by omega)]
    omega

/-! ## Whole numbers that are kept -/

theorem toRat_of_significand {x : Binary64} {k : Nat} (whole : x.significand = (m * 2 ^ k, -(k : Int))) :
    x.toRat = if x.isNegative then -(m : Rat) else m := by
  have shift : ((2 ^ k : Nat) : Rat) ≠ 0 := by exact_mod_cast Nat.ne_of_gt (Nat.two_pow_pos k)
  have value : (if (0 : Int) ≤ -(k : Int) then ((m * 2 ^ k * 2 ^ (-(k : Int)).toNat : Nat) : Rat)
      else ((m * 2 ^ k : Nat) : Rat) / (2 ^ (-(-(k : Int))).toNat : Nat)) = m := by
    split
    · have none_ : k = 0 := by omega
      simp [none_]
    · rw [Int.neg_neg, Int.toNat_natCast, Nat.cast_mul, mul_div_cancel_right₀ _ shift]
  simp only [toRat, whole, value]

theorem significand_ofInt {n : Int} (some_ : n ≠ 0) (small : n.natAbs < 2 ^ 53) :
    (ofInt n).significand = (n.natAbs * 2 ^ (52 - n.natAbs.log2), -((52 - n.natAbs.log2 : Nat) : Int)) := by
  have positive : n.natAbs ≠ 0 := Int.natAbs_ne_zero.mpr some_
  have bits : n.natAbs.log2 < 53 := (Nat.log2_lt positive).mpr small
  have lower := (wholeSignificand_bounds positive).1
  have upper := wholeSignificand_lt positive small
  have magnitude := (magnitude_ofInt n).trans (nearestMagnitude_of_small positive (Nat.le_of_lt small))
  have exponent : (ofInt n).magnitude / 2 ^ 52 = n.natAbs.log2 + 1023 := by omega
  have fraction : (ofInt n).magnitude % 2 ^ 52 = wholeSignificand n.natAbs - 2 ^ 52 := by omega
  rw [significand, exponent, fraction, if_neg (by omega), ← wholeSignificand_of_small small]
  exact Prod.ext (by simp only; omega) (by simp only; omega)

/-- Whole numbers below `2 ^ 53` are not changed. -/
theorem toRat_ofInt {n : Int} (small : n.natAbs < 2 ^ 53) : (ofInt n).toRat = n := by
  by_cases zero : n = 0
  · subst zero
    decide +kernel
  · rw [toRat_of_significand (significand_ofInt zero small), isNegative_ofInt]
    split
    · rename_i negative
      have below := of_decide_eq_true negative
      rw [← Int.cast_natCast, ← Int.cast_neg]
      exact congrArg _ (by omega)
    · rename_i positive
      have above := of_decide_eq_false (Bool.eq_false_iff.mpr positive)
      rw [← Int.cast_natCast]
      exact congrArg _ (by omega)

end SheetExport.Binary64
