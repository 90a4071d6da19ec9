import Mathlib.Data.Int.Log
import Mathlib.Data.Rat.Floor
import Mathlib.Tactic.FieldSimp
import Mathlib.Tactic.Linarith
import Mathlib.Tactic.Ring

/-!
# Binary rounding

The value a binary floating-point format with `p` significant bits keeps of a
rational: nearest, ties to the even significand. Exponents are not bounded, so this
is the format's own rounding away from its overflow and underflow ranges.
-/

namespace Precision

set_option autoImplicit false

def roundTiesEven (q : ℚ) : ℤ :=
  let low := ⌊q⌋
  let rest := q - low
  if rest < 1 / 2 then low
  else if 1 / 2 < rest then low + 1
  else if low % 2 = 0 then low else low + 1

def toBits (p : ℕ) (q : ℚ) : ℚ :=
  if q = 0 then 0
  else
    let ulp : ℚ := 2 ^ (Int.log 2 |q| - (p - 1 : ℤ))
    roundTiesEven (q / ulp) * ulp

/-- Conversion of a float or double to an integer drops the fraction. -/
def truncate (q : ℚ) : ℤ := if 0 ≤ q then ⌊q⌋ else ⌈q⌉

/-- C's `round`: nearest, ties away from zero. -/
def roundHalfAway (q : ℚ) : ℤ := if 0 ≤ q then ⌊q + 1 / 2⌋ else ⌈q - 1 / 2⌉

theorem abs_roundTiesEven_sub_le (q : ℚ) : |(roundTiesEven q : ℚ) - q| ≤ 1 / 2 := by
  have hlow := Int.floor_le q
  have hhigh := Int.lt_floor_add_one q
  unfold roundTiesEven
  dsimp only
  split
  · rw [abs_le]
    constructor <;> linarith
  · split
    · push_cast
      rw [abs_le]
      constructor <;> linarith
    · split
      · rw [abs_le]
        constructor <;> linarith
      · push_cast
        rw [abs_le]
        constructor <;> linarith

@[simp] theorem roundTiesEven_intCast (n : ℤ) : roundTiesEven n = n := by
  simp [roundTiesEven]

/-- The error is at most half a unit in the last of the `p` bits. -/
theorem abs_toBits_sub_le (p : ℕ) (q : ℚ) : |toBits p q - q| ≤ |q| / 2 ^ p := by
  by_cases hq : q = 0
  · simp [toBits, hq]
  have hpos : 0 < |q| := abs_pos.mpr hq
  have hulp : (0 : ℚ) < 2 ^ (Int.log 2 |q| - (p - 1 : ℤ)) := zpow_pos (by norm_num) _
  have hbound : (2 : ℚ) ^ (Int.log 2 |q| - (p - 1 : ℤ)) ≤ 2 * (|q| / 2 ^ p) := by
    have hlog : (2 : ℚ) ^ Int.log 2 |q| ≤ |q| := by
      exact_mod_cast Int.zpow_log_le_self (b := 2) (by norm_num) hpos
    rw [zpow_sub₀ (by norm_num), zpow_sub₀ (by norm_num), zpow_natCast, zpow_one]
    calc (2 : ℚ) ^ Int.log 2 |q| / (2 ^ p / 2) = 2 * ((2 : ℚ) ^ Int.log 2 |q| / 2 ^ p) := by
          field_simp
      _ ≤ 2 * (|q| / 2 ^ p) := by gcongr
  have herror := abs_roundTiesEven_sub_le (q / 2 ^ (Int.log 2 |q| - (p - 1 : ℤ)))
  simp only [toBits, if_neg hq]
  generalize (2 : ℚ) ^ (Int.log 2 |q| - (p - 1 : ℤ)) = ulp at hulp hbound herror ⊢
  have hscaled : (roundTiesEven (q / ulp) : ℚ) * ulp - q =
      (roundTiesEven (q / ulp) - q / ulp) * ulp := by
    field_simp
  rw [hscaled, abs_mul, abs_of_pos hulp]
  calc |(roundTiesEven (q / ulp) : ℚ) - q / ulp| * ulp ≤ 1 / 2 * ulp := by gcongr
    _ ≤ |q| / 2 ^ p := by linarith

/-- A number with `p` significant bits is kept. -/
theorem toBits_eq_self {p k : ℕ} {q : ℚ} {n : ℤ} (hn : q * 2 ^ k = n) (hlt : |n| < 2 ^ p) :
    toBits p q = q := by
  by_cases hq : q = 0
  · simp [toBits, hq]
  have hpos : 0 < |q| := abs_pos.mpr hq
  have hlog : Int.log 2 |q| < p - k := by
    apply (Int.lt_zpow_iff_log_lt (b := 2) (by norm_num) hpos).mp
    push_cast
    have habs : |q| * 2 ^ k = ((|n| : ℤ) : ℚ) := by
      rw [Int.cast_abs, ← hn, abs_mul, abs_of_pos (by positivity : (0 : ℚ) < 2 ^ k)]
    rw [zpow_sub₀ (by norm_num), zpow_natCast, zpow_natCast, lt_div_iff₀ (by positivity), habs]
    exact_mod_cast hlt
  obtain ⟨m, hm⟩ := Int.eq_ofNat_of_zero_le (by omega : 0 ≤ (p : ℤ) - 1 - k - Int.log 2 |q|)
  have hulp : (2 : ℚ) ^ (Int.log 2 |q| - (p - 1 : ℤ)) = (2 ^ k * 2 ^ m)⁻¹ := by
    have hexp : Int.log 2 |q| - (p - 1 : ℤ) = -((k + m : ℕ) : ℤ) := by
      push_cast
      omega
    rw [hexp, zpow_neg, zpow_natCast, pow_add]
  have hint : q / 2 ^ (Int.log 2 |q| - (p - 1 : ℤ)) = ((n * 2 ^ m : ℤ) : ℚ) := by
    rw [hulp, div_inv_eq_mul, ← mul_assoc, hn]
    push_cast
    rfl
  simp only [toBits, if_neg hq, hint, roundTiesEven_intCast]
  rw [← hint, div_mul_cancel₀]
  exact (zpow_pos (by norm_num) _).ne'

theorem roundHalfAway_nonneg {q : ℚ} (h : 0 ≤ q) : 0 ≤ roundHalfAway q := by
  rw [roundHalfAway, if_pos h]
  exact Int.floor_nonneg.mpr (by linarith)

theorem roundHalfAway_le {q : ℚ} {n : ℤ} (h : q ≤ n) : roundHalfAway q ≤ n := by
  unfold roundHalfAway
  split
  · apply Int.lt_add_one_iff.mp
    rw [Int.floor_lt]
    push_cast
    linarith
  · exact Int.ceil_le.mpr (by linarith)

/-- Numbers that are one or more apart are rounded to different integers. -/
theorem roundHalfAway_sub_lt {q d : ℚ} (h : 1 ≤ d) : roundHalfAway (q - d) < roundHalfAway q := by
  by_cases hlow : 0 ≤ q - d
  · have hhigh : 0 ≤ q := by linarith
    rw [roundHalfAway, roundHalfAway, if_pos hlow, if_pos hhigh, Int.floor_lt]
    have hfloor := Int.lt_floor_add_one (q + 1 / 2)
    linarith
  rw [roundHalfAway, if_neg hlow, Int.lt_iff_add_one_le, ← Int.ceil_add_one, Int.ceil_le]
  by_cases hhigh : 0 ≤ q
  · rw [roundHalfAway, if_pos hhigh]
    have hfloor := Int.lt_floor_add_one (q + 1 / 2)
    linarith
  · rw [roundHalfAway, if_neg hhigh]
    have hceil := Int.le_ceil (q - 1 / 2)
    linarith

end Precision
