import Mathlib.Algebra.Order.Field.Power
import Mathlib.Algebra.Order.Field.Rat
import Mathlib.Tactic.FieldSimp
import Mathlib.Tactic.GCongr
import Mathlib.Tactic.Linarith
import Mathlib.Tactic.Positivity
import Mathlib.Tactic.Ring
import MetricFacade.Number.Decimal

/-!
# The nearest double of a quotient

Rounding works on a numerator and a denominator, on digits and a power of ten. Its result is
that of the rational number these stand for, however it is written, and a number that is a
double is rounded to itself.

Results:

* `nearestBits_congr`, `Decimal.nearestBits_congr`: equal numbers round to the same double.
* `nearestBits_exact`, `Decimal.nearestBits_exact`: the number of a double rounds to it.
-/
namespace MetricFacade.Number

/-! ## The exponent -/

/-- `2^q` is the step of the doubles around `v`: below `2^53` steps, and not below half of that
unless no smaller step exists. -/
structure IsExponent (v : ℚ) (q : Int) : Prop where
  least : minExponent ≤ q
  below : v < 2 ^ (q + 53)
  tight : q = minExponent ∨ 2 ^ (q + 52) ≤ v

variable {v : ℚ} {q r : Int} {num den num' den' : Nat}

theorem IsExponent.le (hq : IsExponent v q) (hr : IsExponent v r) : q ≤ r := by
  rcases hq.tight with hleast | htight
  · exact hleast ▸ hr.least
  · have hpow : (2 : ℚ) ^ (q + 52) < 2 ^ (r + 53) := lt_of_le_of_lt htight hr.below
    rw [zpow_lt_zpow_iff_right₀ (by norm_num)] at hpow
    omega

theorem IsExponent.unique (hq : IsExponent v q) (hr : IsExponent v r) : q = r :=
  le_antisymm (hq.le hr) (hr.le hq)

theorem scaleBinary_pos (num : Nat) (hden : 0 < den) (q : Int) : 0 < (scaleBinary num den q).2 := by
  simpa [scaleBinary] using hden

theorem zpow_toNat_div {b : ℚ} (hb : b ≠ 0) (q : Int) :
    b ^ q.toNat / b ^ (-q).toNat = b ^ q := by
  rw [← zpow_natCast, ← zpow_natCast, ← zpow_sub₀ hb]
  congr 1
  omega

theorem scaleBinary_quotient (num den : Nat) (q : Int) :
    ((scaleBinary num den q).1 : ℚ) / (scaleBinary num den q).2 = num / den / 2 ^ q := by
  rw [← zpow_toNat_div two_ne_zero q]
  simp only [scaleBinary, Nat.pow_eq, Nat.cast_mul, Nat.cast_pow, Nat.cast_ofNat]
  field_simp

/-- The check that `binaryExponent` makes, said of the number. -/
theorem scaleBinary_lt_iff (num : Nat) (hden : 0 < den) (q : Int) (k : Nat) :
    (scaleBinary num den q).1 / (scaleBinary num den q).2 < 2 ^ k ↔
      (num : ℚ) / den < 2 ^ (q + k) := by
  have hpos := scaleBinary_pos num hden q
  rw [Nat.div_lt_iff_lt_mul hpos, zpow_add₀ two_ne_zero, zpow_natCast, mul_comm ((2 : ℚ) ^ q),
    ← div_lt_iff₀ (zpow_pos two_pos q), ← scaleBinary_quotient, div_lt_iff₀ (by exact_mod_cast hpos)]
  exact_mod_cast Iff.rfl

/-- A quotient lies within a factor of two of the quotient of the leading bits. -/
theorem log2_bounds (hnum : 0 < num) (hden : 0 < den) :
    (2 : ℚ) ^ ((num.log2 : Int) - den.log2 - 1) < num / den ∧
      (num : ℚ) / den < 2 ^ ((num.log2 : Int) - den.log2 + 1) := by
  have hnumLow : (2 : ℚ) ^ num.log2 ≤ num := by exact_mod_cast Nat.log2_self_le hnum.ne'
  have hnumHigh : (num : ℚ) < 2 ^ (num.log2 + 1) := by exact_mod_cast Nat.lt_log2_self
  have hdenLow : (2 : ℚ) ^ den.log2 ≤ den := by exact_mod_cast Nat.log2_self_le hden.ne'
  have hdenHigh : (den : ℚ) < 2 ^ (den.log2 + 1) := by exact_mod_cast Nat.lt_log2_self
  have hd : (0 : ℚ) < den := by exact_mod_cast hden
  constructor
  · rw [lt_div_iff₀ hd]
    calc (2 : ℚ) ^ ((num.log2 : Int) - den.log2 - 1) * den
        < 2 ^ ((num.log2 : Int) - den.log2 - 1) * 2 ^ (den.log2 + 1) := by gcongr
      _ = 2 ^ num.log2 := by
        rw [← zpow_natCast, ← zpow_natCast, ← zpow_add₀ two_ne_zero]
        congr 1
        push_cast
        ring
      _ ≤ num := hnumLow
  · rw [div_lt_iff₀ hd]
    calc (num : ℚ) < 2 ^ (num.log2 + 1) := hnumHigh
      _ = 2 ^ ((num.log2 : Int) - den.log2 + 1) * 2 ^ den.log2 := by
        rw [← zpow_natCast, ← zpow_natCast, ← zpow_add₀ two_ne_zero]
        congr 1
        push_cast
        ring
      _ ≤ 2 ^ ((num.log2 : Int) - den.log2 + 1) * den := by gcongr

theorem isExponent_binaryExponent (hnum : 0 < num) (hden : 0 < den) :
    IsExponent ((num : ℚ) / den) (binaryExponent num den) := by
  obtain ⟨hlow, hhigh⟩ := log2_bounds hnum hden
  have hcheck := scaleBinary_lt_iff num hden
    (max ((num.log2 : Int) - den.log2 - 53) minExponent) 53
  rw [binaryExponent]
  dsimp only
  generalize hleast : max ((num.log2 : Int) - den.log2 - 53) minExponent = least at *
  split_ifs with hfits
  · refine ⟨by omega, hcheck.1 hfits, ?_⟩
    -- unless the step is the smallest, the leading bits alone fill it
    by_cases hmin : least = minExponent
    · exact .inl hmin
    · right
      refine le_trans (zpow_le_zpow_right₀ one_le_two ?_) hlow.le
      omega
  · have hstep : (2 : ℚ) ^ (least + 53) ≤ num / den := not_lt.1 (mt hcheck.2 hfits)
    refine ⟨by omega, ?_, .inr ?_⟩
    · refine lt_of_lt_of_le hhigh (zpow_le_zpow_right₀ one_le_two ?_)
      omega
    · convert hstep using 2
      omega

/-! ## Rounding -/

theorem divideToEven_mul {k : Nat} (hk : 0 < k) (n d : Nat) :
    divideToEven (n * k) (d * k) = divideToEven n d := by
  have hlt : 2 * (n % d) * k < d * k ↔ 2 * (n % d) < d := Nat.mul_lt_mul_right hk
  have hgt : d * k < 2 * (n % d) * k ↔ d < 2 * (n % d) := Nat.mul_lt_mul_right hk
  simp only [divideToEven, Nat.mul_div_mul_right _ _ hk, Nat.mul_mod_mul_right, ← Nat.mul_assoc,
    hlt, hgt]

theorem divideToEven_congr (hden : 0 < den) (hden' : 0 < den')
    (h : (num : ℚ) / den = num' / den') : divideToEven num den = divideToEven num' den' := by
  have hcross : num * den' = num' * den := by
    rw [div_eq_div_iff (by positivity) (by positivity)] at h
    exact_mod_cast h
  calc divideToEven num den = divideToEven (num * den') (den * den') := (divideToEven_mul hden' ..).symm
    _ = divideToEven (num' * den) (den' * den) := by rw [hcross, Nat.mul_comm den]
    _ = divideToEven num' den' := divideToEven_mul hden ..

theorem divideToEven_exact {n d m : Nat} (hd : 0 < d) (h : (n : ℚ) / d = m) :
    divideToEven n d = m := by
  have hwhole : divideToEven n d = divideToEven m 1 := divideToEven_congr hd one_pos (by simpa using h)
  rw [hwhole]
  simp [divideToEven, Nat.mod_one]

/-- The bits of the double nearest to a number above zero, its step given. -/
theorem nearestBits_eq (hnum : 0 < num) (hden : 0 < den) (hq : IsExponent ((num : ℚ) / den) q) :
    nearestBits num den =
      min ((q - minExponent).toNat * 2 ^ fractionWidth
        + divideToEven (scaleBinary num den q).1 (scaleBinary num den q).2) infinityBits := by
  rw [nearestBits, if_neg hnum.ne', (isExponent_binaryExponent hnum hden).unique hq]
  rfl

theorem nearestBits_congr (hden : 0 < den) (hden' : 0 < den')
    (h : (num : ℚ) / den = num' / den') : nearestBits num den = nearestBits num' den' := by
  have hzero : num = 0 ↔ num' = 0 := by
    have hq : (num : ℚ) / den = 0 ↔ (num' : ℚ) / den' = 0 := by rw [h]
    simpa [hden.ne', hden'.ne'] using hq
  by_cases hnum : num = 0
  · simp [nearestBits, hnum, hzero.1 hnum]
  · have hnum' : num' ≠ 0 := mt hzero.2 hnum
    have hq := isExponent_binaryExponent (Nat.pos_of_ne_zero hnum) hden
    rw [nearestBits_eq (Nat.pos_of_ne_zero hnum) hden hq,
      nearestBits_eq (Nat.pos_of_ne_zero hnum') hden' (h ▸ hq),
      divideToEven_congr (scaleBinary_pos _ hden _) (scaleBinary_pos _ hden' _)
        (by rw [scaleBinary_quotient, scaleBinary_quotient, h])]

/-! ## Doubles round to themselves -/

/-- The number of a magnitude, from its bits. -/
def magnitude (bits : Nat) : ℚ :=
  (significand bits).1 * 2 ^ (significand bits).2

theorem significand_eq (bits : Nat) :
    significand bits =
      if bits / 2 ^ 52 = 0 then (bits % 2 ^ 52, minExponent)
      else (bits % 2 ^ 52 + 2 ^ 52, minExponent + (bits / 2 ^ 52 : Nat) - 1) :=
  rfl

/-- The fields of a magnitude fit, and they tell the bits. -/
theorem significand_spec (bits : Nat) :
    (significand bits).1 < 2 ^ 53 ∧ minExponent ≤ (significand bits).2 ∧
      ((significand bits).2 = minExponent ∨ 2 ^ 52 ≤ (significand bits).1) ∧
      ((significand bits).2 - minExponent).toNat * 2 ^ 52 + (significand bits).1 = bits := by
  have hfraction : bits % 2 ^ 52 < 2 ^ 52 := Nat.mod_lt _ (by norm_num)
  have hbits := Nat.div_add_mod bits (2 ^ 52)
  rw [significand_eq]
  split_ifs with hfield
  · rw [hfield] at hbits
    exact ⟨by omega, le_refl _, .inl rfl, by omega⟩
  · refine ⟨by omega, by omega, .inr (by omega), ?_⟩
    have hexponent : (minExponent + (bits / 2 ^ 52 : Nat) - 1 - minExponent).toNat = bits / 2 ^ 52 - 1 := by
      omega
    rw [hexponent, Nat.sub_mul]
    have hone : 1 * 2 ^ 52 ≤ bits / 2 ^ 52 * 2 ^ 52 := Nat.mul_le_mul_right _ (by omega)
    omega

theorem significand_pos {bits : Nat} (h : 0 < bits) : 0 < (significand bits).1 := by
  obtain ⟨-, -, htight, hbits⟩ := significand_spec bits
  rcases htight with hmin | hfull
  · rw [hmin] at hbits
    omega
  · omega

/-- Magnitudes are finite: at most `2^53` steps of `2^971`. -/
theorem significand_le {bits : Nat} (h : bits < infinityBits) : (significand bits).2 ≤ 971 := by
  obtain ⟨-, hleast, htight, hbits⟩ := significand_spec bits
  have hinfinity : infinityBits = 2047 * 2 ^ 52 := rfl
  have hmin : minExponent = -1074 := rfl
  omega

theorem isExponent_magnitude {bits : Nat} : IsExponent (magnitude bits) (significand bits).2 := by
  obtain ⟨hfits, hleast, htight, -⟩ := significand_spec bits
  have hpos : (0 : ℚ) < 2 ^ (significand bits).2 := zpow_pos two_pos _
  refine ⟨hleast, ?_, htight.imp_right fun hfull => ?_⟩
  · rw [add_comm, zpow_add₀ two_ne_zero, magnitude]
    gcongr
    exact_mod_cast hfits
  · rw [add_comm, zpow_add₀ two_ne_zero, magnitude]
    gcongr
    exact_mod_cast hfull

theorem magnitude_pos {bits : Nat} (h : 0 < bits) : 0 < magnitude bits := by
  have hm : (0 : ℚ) < (significand bits).1 := by exact_mod_cast significand_pos h
  exact mul_pos hm (zpow_pos two_pos _)

theorem nearestBits_exact {bits : Nat} (hpos : 0 < bits) (hfinite : bits < infinityBits)
    (hden : 0 < den) (h : (num : ℚ) / den = magnitude bits) : nearestBits num den = bits := by
  have hnum : 0 < num := by
    have hquot : (0 : ℚ) < num / den := h ▸ magnitude_pos hpos
    by_contra hzero
    simp [Nat.eq_zero_of_not_pos hzero] at hquot
  have hq : IsExponent ((num : ℚ) / den) (significand bits).2 := h ▸ isExponent_magnitude
  have hround : divideToEven (scaleBinary num den (significand bits).2).1
      (scaleBinary num den (significand bits).2).2 = (significand bits).1 := by
    apply divideToEven_exact (scaleBinary_pos _ hden _)
    rw [scaleBinary_quotient, h, magnitude, mul_div_assoc, div_self (zpow_ne_zero _ two_ne_zero),
      mul_one]
  rw [nearestBits_eq hnum hden hq, hround, fractionWidth, (significand_spec bits).2.2.2]
  exact min_eq_left hfinite.le

/-! ## Decimals -/

namespace Decimal

variable {d e : Decimal}

def value (d : Decimal) : ℚ :=
  d.digits * 10 ^ d.exponent

theorem ratio_pos (d : Decimal) : 0 < d.ratio.2 := by
  simp [ratio]

theorem ratio_quotient (d : Decimal) : (d.ratio.1 : ℚ) / d.ratio.2 = d.value := by
  rw [value, ← zpow_toNat_div (by norm_num : (10 : ℚ) ≠ 0)]
  simp only [ratio, Nat.pow_eq, Nat.cast_mul, Nat.cast_pow, Nat.cast_ofNat]
  rw [mul_div_assoc]

theorem value_eq_zero : d.value = 0 ↔ d.digits = 0 := by
  have hstep : (10 : ℚ) ^ d.exponent ≠ 0 := zpow_ne_zero _ (by norm_num)
  simp [value, hstep]

/-- Where the first digit stands. -/
def top (d : Decimal) : Int :=
  d.exponent + digitCount d.digits

theorem digitCount_bounds {n : Nat} (h : 0 < n) : 10 ^ (digitCount n - 1) ≤ n ∧ n < 10 ^ digitCount n := by
  have hpos : 0 < (Nat.toDigits 10 n).length := Nat.length_toDigits_pos
  rw [digitCount, if_neg h.ne']
  refine ⟨?_, (Nat.length_toDigits_le_iff (by decide) hpos).1 le_rfl⟩
  by_cases hone : (Nat.toDigits 10 n).length = 1
  · rw [hone]
    exact h
  · by_contra hlow
    have hshort := (Nat.length_toDigits_le_iff (by decide) (by omega)).2 (not_le.1 hlow)
    omega

theorem top_bounds (h : d.digits ≠ 0) : (10 : ℚ) ^ (d.top - 1) ≤ d.value ∧ d.value < 10 ^ d.top := by
  have hpos : 0 < digitCount d.digits := by
    rw [digitCount, if_neg h]
    exact Nat.length_toDigits_pos
  obtain ⟨hlow, hhigh⟩ := digitCount_bounds (Nat.pos_of_ne_zero h)
  have hlow' : (10 : ℚ) ^ (digitCount d.digits - 1) ≤ d.digits := by exact_mod_cast hlow
  have hhigh' : (d.digits : ℚ) < 10 ^ digitCount d.digits := by exact_mod_cast hhigh
  have hstep : (0 : ℚ) < 10 ^ d.exponent := zpow_pos (by norm_num) _
  constructor
  · have hsplit : d.top - 1 = ((digitCount d.digits - 1 : Nat) : Int) + d.exponent := by
      rw [top]
      omega
    rw [hsplit, zpow_add₀ (by norm_num), zpow_natCast, value]
    gcongr
  · rw [top, add_comm, zpow_add₀ (by norm_num), zpow_natCast, value]
    gcongr

theorem top_congr (hd : d.digits ≠ 0) (he : e.digits ≠ 0) (h : d.value = e.value) : d.top = e.top := by
  obtain ⟨hdLow, hdHigh⟩ := top_bounds hd
  obtain ⟨heLow, heHigh⟩ := top_bounds he
  have hle : (10 : ℚ) ^ (d.top - 1) < 10 ^ e.top := lt_of_le_of_lt (h ▸ hdLow) heHigh
  have hge : (10 : ℚ) ^ (e.top - 1) < 10 ^ d.top := lt_of_le_of_lt heLow (h ▸ hdHigh)
  rw [zpow_lt_zpow_iff_right₀ (by norm_num)] at hle hge
  omega

theorem nearestBits_congr (h : d.value = e.value) : d.nearestBits = e.nearestBits := by
  have hzero : d.digits = 0 ↔ e.digits = 0 := by rw [← value_eq_zero, h, value_eq_zero]
  by_cases hd : d.digits = 0
  · simp [nearestBits, hd, hzero.1 hd]
  · have he : e.digits ≠ 0 := mt hzero.2 hd
    have htop := top_congr hd he h
    have hround : Number.nearestBits d.ratio.1 d.ratio.2 = Number.nearestBits e.ratio.1 e.ratio.2 :=
      Number.nearestBits_congr (ratio_pos d) (ratio_pos e)
        (by rw [ratio_quotient, ratio_quotient, h])
    rw [top, top] at htop
    simp only [nearestBits, hd, he, htop, hround]

theorem two_pow_lt_ten_pow : 2 ^ 1074 < 10 ^ 330 ∧ 2 ^ 1024 < 10 ^ 310 := by
  decide +kernel

/-- A decimal that is the number of a finite double reads as that double. The two early answers
are never taken there: such a number lies between `10^-324` and `10^309`. -/
theorem nearestBits_exact {bits : Nat} (hpos : 0 < bits) (hfinite : bits < infinityBits)
    (h : d.value = magnitude bits) : d.nearestBits = bits := by
  have hdigits : d.digits ≠ 0 := by
    rw [Ne, ← value_eq_zero, h]
    exact (magnitude_pos hpos).ne'
  obtain ⟨hlow, hhigh⟩ := top_bounds hdigits
  obtain ⟨hfits, hleast, -, -⟩ := significand_spec bits
  have hgreatest := significand_le hfinite
  have hsmall : ¬ d.top < -330 := by
    intro htop
    have hvalue : (2 : ℚ) ^ (-1074 : Int) ≤ d.value := by
      rw [h, magnitude]
      have hone : (1 : ℚ) ≤ (significand bits).1 := by exact_mod_cast significand_pos hpos
      have hstep : (2 : ℚ) ^ (-1074 : Int) ≤ 2 ^ (significand bits).2 :=
        zpow_le_zpow_right₀ one_le_two hleast
      nlinarith [zpow_pos (two_pos : (0 : ℚ) < 2) (significand bits).2]
    have hten : (10 : ℚ) ^ d.top ≤ 10 ^ (-330 : Int) := zpow_le_zpow_right₀ (by norm_num) htop.le
    have hgap : (10 : ℚ) ^ (-330 : Int) < 2 ^ (-1074 : Int) := by
      rw [zpow_neg, zpow_neg, inv_lt_inv₀ (by positivity) (by positivity)]
      exact_mod_cast two_pow_lt_ten_pow.1
    exact absurd (hhigh.trans_le hten) (hgap.trans_le hvalue).not_gt
  have hlarge : ¬ 310 < d.top := by
    intro htop
    have hvalue : d.value < 2 ^ (1024 : Int) := by
      rw [h]
      exact lt_of_lt_of_le isExponent_magnitude.below (zpow_le_zpow_right₀ one_le_two (by omega))
    have hten : (10 : ℚ) ^ (310 : Int) ≤ 10 ^ (d.top - 1) := zpow_le_zpow_right₀ (by norm_num) (by omega)
    have hgap : (2 : ℚ) ^ (1024 : Int) < 10 ^ (310 : Int) := by
      exact_mod_cast two_pow_lt_ten_pow.2
    exact absurd (hgap.trans_le (hten.trans hlow)) hvalue.not_gt
  rw [top] at hsmall hlarge
  simp only [nearestBits, hdigits, hsmall, hlarge, or_self, if_false]
  exact Number.nearestBits_exact hpos hfinite (ratio_pos d) (by rw [ratio_quotient, h])

end Decimal

end MetricFacade.Number
