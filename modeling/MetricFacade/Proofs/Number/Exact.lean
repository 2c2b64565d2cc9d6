import MetricFacade.Proofs.Number.Double

/-!
# Arithmetic without rounding

A sum or product of doubles is rounded, unless the exact result is a double itself. Whole multiples
of one power of two that have 53 bits at most are such: among them adding is exact, and so is
multiplying by a natural.

Results:

* `normalize_scaled`: which power of two a number is written with does not count.
* `unpack_dyadic`: such a number is kept.
* `dyadic_add`, `dyadic_mul`: sums and products of such numbers.
-/
namespace MetricFacade.Number

open Float.Model UnpackedFloat

/-! ## The place of the last bit -/

/-- The exponent that `m · 2^q` is written with, so that `m` has 53 bits if it can. -/
def place (m : Nat) (q : Int) : Int :=
  max ((m.log2 : Int) + q - 52) minExponent

theorem targetExponent_eq (m : Nat) (q : Int) :
    Format.binary64.targetExponent (totalExponent m q) = place m q := by
  simp only [Format.targetExponent, totalExponent, place, Format.mantissaBits, Format.minExponent,
    minExponent]
  omega

theorem log2_scaled {m : Nat} (hm : 0 < m) (k : Nat) : (m * 2 ^ k).log2 = m.log2 + k := by
  induction k with
  | zero => rw [pow_zero, Nat.mul_one, Nat.add_zero]
  | succ k ih =>
    have hne : m * 2 ^ k ≠ 0 := (Nat.mul_pos hm (Nat.two_pow_pos k)).ne'
    rw [pow_succ', Nat.mul_left_comm, Nat.log2_two_mul hne, ih, Nat.add_assoc]

theorem place_scaled {m : Nat} (hm : 0 < m) (q : Int) (k : Nat) :
    place (m * 2 ^ k) (q - k) = place m q := by
  rw [place, place, log2_scaled hm]
  congr 1
  push_cast
  omega

/-- The `m` that stands at that place. -/
def mantissaAt (m : Nat) (q : Int) : Nat :=
  m * 2 ^ (q - place m q).toNat

theorem mantissaAt_pos {m : Nat} (hm : 0 < m) (q : Int) : 0 < mantissaAt m q :=
  Nat.mul_pos hm (Nat.two_pow_pos _)

/-- A number that `2^q` times a natural below `2^53` can be written as is not rounded. -/
structure Short (m : Nat) (q : Int) : Prop where
  pos : 0 < m
  bits : m < 2 ^ 53
  least : minExponent ≤ q

namespace Short

variable {m : Nat} {q : Int}

theorem place_le (h : Short m q) : place m q ≤ q := by
  have hlog : m.log2 < 53 := (Nat.log2_lt h.pos.ne').2 h.bits
  have hleast := h.least
  rw [place]
  omega

theorem place_mantissaAt (h : Short m q) : place (mantissaAt m q) (place m q) = place m q := by
  have hplace := h.place_le
  have hscaled := place_scaled h.pos q (q - place m q).toNat
  rwa [show q - ((q - place m q).toNat : Int) = place m q by omega] at hscaled

end Short

/-! ## Rounding -/

theorem shiftRight_exact (m k : Nat) :
    (⟨m * 2 ^ k, false, false⟩ : ExtendedMantissa) >>> k = ⟨m, false, false⟩ := by
  change k.repeat ExtendedMantissa.shiftRightOne ⟨m * 2 ^ k, false, false⟩ = _
  induction k generalizing m with
  | zero => rw [pow_zero, Nat.mul_one]; rfl
  | succ k ih =>
    have hlast : ExtendedMantissa.shiftRightOne ⟨2 * m, false, false⟩ = ⟨m, false, false⟩ := by
      simp [ExtendedMantissa.shiftRightOne]
    rw [Nat.repeat, pow_succ', ← Nat.mul_assoc, Nat.mul_comm m 2, ih (2 * m), hlast]

theorem shiftToTargetExponent_exact {m : Nat} (hm : 0 < m) {t : Int} (ht : place m t = t) (k : Nat) :
    shiftToTargetExponent Format.binary64 (m * 2 ^ k) (t - k) .exact = (⟨m, false, false⟩, t) := by
  have hshift : (t - (t - (k : Int))).toNat = k := by omega
  have hback : t - (k : Int) + k = t := by omega
  rw [shiftToTargetExponent, targetExponent_eq, place_scaled hm, ht, shiftToExponent, hshift, hback]
  exact congrArg (·, t) (shiftRight_exact m k)

/-- Trailing zeros are dropped without loss. -/
theorem roundWithAccuracy_exact {m : Nat} (hm : 0 < m) {t : Int} (ht : place m t = t) (s : Sign)
    (k : Nat) :
    roundWithAccuracy Format.binary64 s (m * 2 ^ k) (t - k) .exact = .finite s m t hm := by
  have hagain := shiftToTargetExponent_exact hm ht 0
  rw [pow_zero, Nat.mul_one, Nat.cast_zero, sub_zero] at hagain
  have hrounded : (⟨m, false, false⟩ : ExtendedMantissa).roundedMantissa = m := rfl
  unfold roundWithAccuracy
  rw [shiftToTargetExponent_exact hm ht]
  dsimp only
  rw [hrounded, hagain]
  exact dif_neg hm.ne'

/-- The bits below the place are zeros. -/
theorem roundWithAccuracy_scaled {m : Nat} {q : Int} (h : Short m q) (s : Sign) {k : Nat}
    (hlow : q - k ≤ place m q) :
    roundWithAccuracy Format.binary64 s (m * 2 ^ k) (q - k) .exact =
      .finite s (mantissaAt m q) (place m q) (mantissaAt_pos h.pos q) := by
  have hplace := h.place_le
  have hkept := roundWithAccuracy_exact (mantissaAt_pos h.pos q) h.place_mantissaAt s
    (place m q - (q - k)).toNat
  have hmantissa : mantissaAt m q * 2 ^ (place m q - (q - k)).toNat = m * 2 ^ k := by
    rw [mantissaAt, Nat.mul_assoc, ← pow_add]
    congr 2
    omega
  rwa [hmantissa, show place m q - ((place m q - (q - k)).toNat : Int) = q - k by omega] at hkept

/-- `m · 2^q` is kept, whichever power of two it is written with. -/
theorem round_scaled {m : Nat} {q : Int} (h : Short m q) (s : Sign) (k : Nat) :
    UnpackedFloat.round Format.binary64 s (m * 2 ^ k) (q - k) =
      .finite s (mantissaAt m q) (place m q) (mantissaAt_pos h.pos q) := by
  have hplace := h.place_le
  unfold UnpackedFloat.round decreaseExponent
  rw [targetExponent_eq, place_scaled h.pos]
  dsimp only
  by_cases hlow : q - k ≤ place m q
  · have hnone : (q - k - place m q).toNat = 0 := by omega
    rw [hnone, Nat.shiftLeft_zero, Nat.cast_zero, sub_zero, roundWithAccuracy_scaled h s hlow]
  · have hmantissa : (m * 2 ^ k) <<< (q - k - place m q).toNat = mantissaAt m q := by
      rw [Nat.shiftLeft_eq, mantissaAt, Nat.mul_assoc, ← pow_add]
      congr 2
      omega
    have hkept := roundWithAccuracy_exact (mantissaAt_pos h.pos q) h.place_mantissaAt s 0
    rw [pow_zero, Nat.mul_one, Nat.cast_zero, sub_zero] at hkept
    rw [hmantissa, show q - k - ((q - k - place m q).toNat : Int) = place m q by omega, hkept]

/-! ## Signed numbers -/

/-- `n · 2^q` is kept as a double. -/
structure Exact (n q : Int) : Prop where
  bits : n.natAbs < 2 ^ 53
  least : minExponent ≤ q
  greatest : q ≤ 971

def signOf (n : Int) : Sign :=
  if n < 0 then .negative else .positive

theorem Exact.short {n q : Int} (h : Exact n q) (hn : n ≠ 0) : Short n.natAbs q :=
  ⟨Int.natAbs_pos.2 hn, h.bits, h.least⟩

theorem normalize_of_ne_zero {n : Int} (hn : n ≠ 0) (q : Int) (z : Sign) :
    normalize Format.binary64 n q z =
      UnpackedFloat.round Format.binary64 (signOf n) n.natAbs q := by
  unfold UnpackedFloat.normalize signOf
  rcases lt_or_gt_of_ne hn with hlt | hgt
  · rw [Int.compare_eq_lt.2 hlt, if_pos hlt]
    dsimp only
    congr 1
    omega
  · rw [Int.compare_eq_gt.2 hgt, if_neg (by omega)]
    dsimp only
    congr 1
    omega

theorem normalize_zero (q : Int) (z : Sign) : normalize Format.binary64 0 q z = .zero z := rfl

/-- Which power of two a number is written with does not count. -/
theorem normalize_scaled {n q : Int} (h : Exact n q) (z : Sign) (k : Nat) :
    normalize Format.binary64 (n * 2 ^ k) (q - k) z = normalize Format.binary64 n q z := by
  by_cases hn : n = 0
  · rw [hn, zero_mul, normalize_zero, normalize_zero]
  · have hpow : (0 : Int) < 2 ^ k := by positivity
    have hsign : signOf (n * 2 ^ k) = signOf n := by
      have hiff : n * 2 ^ k < 0 ↔ n < 0 := by
        constructor
        · intro hlt
          exact neg_of_mul_neg_left hlt hpow.le
        · intro hlt
          exact mul_neg_of_neg_of_pos hlt hpow
      simp only [signOf, hiff]
    have hbits : (n * 2 ^ k).natAbs = n.natAbs * 2 ^ k := by
      rw [Int.natAbs_mul, Int.natAbs_pow]
      rfl
    have hshort := h.short hn
    have hzero := round_scaled hshort (signOf n) 0
    rw [pow_zero, Nat.mul_one, Nat.cast_zero, sub_zero] at hzero
    rw [normalize_of_ne_zero (mul_ne_zero hn hpow.ne'), normalize_of_ne_zero hn, hsign, hbits,
      round_scaled hshort, hzero]

/-! ## Packing -/

theorem sign_packComponents (s : Sign) (exponent : BitVec 11) (mantissa : BitVec 52) :
    Sign.ofBitVec (@unpackSign Format.binary64
      (packComponents Format.binary64 s exponent mantissa)) = s := by
  simp only [unpackSign, packComponents, BitVec.extractLsb]
  rw [BitVec.extractLsb'_append_eq_of_le (by omega), BitVec.extractLsb'_append_eq_of_le (by omega)]
  cases s <;> rfl

/-- The leading bit of 53 is not packed. -/
theorem leading_bit {m : Nat} (hlow : 2 ^ 52 ≤ m) (hbits : m < 2 ^ 53) :
    (1#1 ++ BitVec.ofNat 52 m).toNat = m := by
  rw [BitVec.toNat_append, ← Nat.shiftLeft_add_eq_or_of_lt (BitVec.ofNat 52 m).isLt]
  simp only [BitVec.toNat_ofNat, Nat.shiftLeft_eq]
  omega

theorem pack_finite {m : Nat} (hm : 0 < m) {e : Int} (hgreatest : e ≤ 971) (s : Sign) :
    UnpackedFloat.pack Format.binary64 (.finite s m e hm) =
      packComponents Format.binary64 s
        (if m.log2 + 1 = 53 then BitVec.ofNat 11 (e + 1023 + 52).toNat else 0#11)
        (BitVec.ofNat 52 m) := by
  change (if 2 ^ 11 ≤ (e + 1023 + 52).toNat + 1 then _ else if m.log2 + 1 = 53 then
    packComponents Format.binary64 s (BitVec.ofNat 11 (e + 1023 + 52).toNat) (BitVec.ofNat 52 m)
    else packComponents Format.binary64 s 0#11 (BitVec.ofNat 52 m)) = _
  rw [if_neg (by omega)]
  split
  · rfl
  · rfl

/-- What is written with its place and is not too large is unpacked as it was packed. -/
theorem unpack_pack_finite {m : Nat} (hm : 0 < m) {e : Int} (hplace : place m e = e)
    (hgreatest : e ≤ 971) (s : Sign) :
    UnpackedFloat.unpack Format.binary64 (UnpackedFloat.pack Format.binary64 (.finite s m e hm)) =
      .finite s m e hm := by
  have hlog : m.log2 ≤ 52 ∧ (m.log2 = 52 ∨ e = -1074) ∧ -1074 ≤ e := by
    rw [place, minExponent] at hplace
    omega
  have hbits : m < 2 ^ 53 := (Nat.log2_lt hm.ne').1 (by omega)
  rw [pack_finite hm hgreatest]
  unfold UnpackedFloat.unpack
  simp only [unpackMantissa_packComponents, unpackExponent_packComponents, sign_packComponents]
  by_cases hnormal : m.log2 = 52
  · have hexponent : (BitVec.ofNat 11 (e + 1023 + 52).toNat).toNat = (e + 1023 + 52).toNat := by
      rw [BitVec.toNat_ofNat, Nat.mod_eq_of_lt (by omega)]
    have hproper : BitVec.ofNat 11 (e + 1023 + 52).toNat ≠ -1#_ ∧
        BitVec.ofNat 11 (e + 1023 + 52).toNat ≠ 0#_ := by
      constructor
      · intro hall
        have hone := hexponent.symm.trans (congrArg BitVec.toNat hall)
        change (e + 1023 + 52).toNat = 2047 at hone
        omega
      · intro hnone
        have hzero := hexponent.symm.trans (congrArg BitVec.toNat hnone)
        change (e + 1023 + 52).toNat = 0 at hzero
        omega
    have hlow : 2 ^ 52 ≤ m := by
      rw [← hnormal]
      exact Nat.log2_self_le hm.ne'
    have hfield : m.log2 + 1 = 53 := by omega
    simp only [if_pos hfield, if_neg hproper.1, if_neg hproper.2, hexponent,
      leading_bit hlow hbits]
    have hbias : (Format.binary64.exponentBias : Int) = 1023 := rfl
    rw [hbias]
    congr 1
    omega
  · have hleast : e = -1074 := hlog.2.1.resolve_left hnormal
    have hshort : m < 2 ^ 52 := (Nat.log2_lt hm.ne').1 (by omega)
    have hfield : ¬ m.log2 + 1 = 53 := by omega
    have hmantissa : (BitVec.ofNat 52 m).toNat = m := by
      rw [BitVec.toNat_ofNat, Nat.mod_eq_of_lt hshort]
    have hproper : (0#11 : BitVec 11) ≠ -1#_ := by decide
    have hne : BitVec.ofNat 52 m ≠ 0#_ := by
      intro hnone
      have hzero := hmantissa.symm.trans (congrArg BitVec.toNat hnone)
      exact hm.ne' hzero
    simp only [if_neg hfield, if_neg hproper, if_true, dif_neg hne, hmantissa]
    subst hleast
    rfl

/-! ## Sums and products -/

/-- `n · 2^q` as a double. -/
def dyadic (n q : Int) : Float :=
  Float.ofModel (Float.Model.pack (normalize Format.binary64 n q .positive))

variable {n m q : Int}

theorem normalize_finite (h : Exact n q) (hn : n ≠ 0) (z : Sign) :
    normalize Format.binary64 n q z = .finite (signOf n) (mantissaAt n.natAbs q)
      (place n.natAbs q) (mantissaAt_pos (Int.natAbs_pos.2 hn) q) := by
  have hround := round_scaled (h.short hn) (signOf n) 0
  rw [pow_zero, Nat.mul_one, Nat.cast_zero, sub_zero] at hround
  rw [normalize_of_ne_zero hn, hround]

theorem unpack_dyadic (h : Exact n q) :
    (dyadic n q).toModel.unpack = normalize Format.binary64 n q .positive := by
  change UnpackedFloat.unpack Format.binary64 (UnpackedFloat.pack Format.binary64
    (normalize Format.binary64 n q .positive)) = _
  by_cases hn : n = 0
  · rw [hn, normalize_zero]
    rfl
  · have hshort := h.short hn
    have hplace := hshort.place_le
    have hgreatest := h.greatest
    rw [normalize_finite h hn]
    exact unpack_pack_finite _ hshort.place_mantissaAt (by omega) _

theorem apply_mantissaAt (h : Exact n q) (hn : n ≠ 0) {e : Int} (he : e ≤ place n.natAbs q) :
    (signOf n).apply ((mantissaAt n.natAbs q <<< (place n.natAbs q - e).toNat : Nat) : Int) =
      n * 2 ^ (q - e).toNat := by
  have hplace := (h.short hn).place_le
  have hshift : mantissaAt n.natAbs q <<< (place n.natAbs q - e).toNat =
      n.natAbs * 2 ^ (q - e).toNat := by
    rw [Nat.shiftLeft_eq, mantissaAt, Nat.mul_assoc, ← pow_add]
    congr 2
    omega
  rw [hshift, signOf]
  push_cast
  split
  · next hneg => 
    rw [abs_of_neg hneg, Sign.apply]
    ring
  · next hpos => rw [abs_of_nonneg (not_lt.1 hpos), Sign.apply]

/-- Adding is exact where the sum has no more than 53 bits. -/
theorem dyadic_add (hn : Exact n q) (hm : Exact m q) (hsum : Exact (n + m) q) :
    dyadic n q + dyadic m q = dyadic (n + m) q := by
  have hadd : UnpackedFloat.add Format.binary64 (normalize Format.binary64 n q .positive)
      (normalize Format.binary64 m q .positive) = normalize Format.binary64 (n + m) q .positive := by
    by_cases hn0 : n = 0
    · subst hn0
      rw [normalize_zero, zero_add]
      by_cases hm0 : m = 0
      · subst hm0
        rfl
      · rw [normalize_finite hm hm0]
        rfl
    · by_cases hm0 : m = 0
      · subst hm0
        rw [normalize_zero, add_zero, normalize_finite hn hn0]
        rfl
      · have hplace := (hn.short hn0).place_le
        rw [normalize_finite hn hn0, normalize_finite hm hm0]
        unfold UnpackedFloat.add decreaseExponent
        dsimp only
        rw [apply_mantissaAt hn hn0 (min_le_left _ _), apply_mantissaAt hm hm0 (min_le_right _ _),
          ← add_mul]
        have hscaled := normalize_scaled hsum .positive
          (q - min (place n.natAbs q) (place m.natAbs q)).toNat
        rwa [show q - ((q - min (place n.natAbs q) (place m.natAbs q)).toNat : Int) =
          min (place n.natAbs q) (place m.natAbs q) by omega] at hscaled
  change Float.ofModel (Float.Model.pack (UnpackedFloat.add Format.binary64
    (dyadic n q).toModel.unpack (dyadic m q).toModel.unpack)) = _
  rw [unpack_dyadic hn, unpack_dyadic hm, hadd]
  rfl

/-- A natural is written with all 53 bits, so a product with it has enough of them. -/
theorem place_le_of_factor {a b : Nat} (ha : 0 < a) (hb : Short b 0) (e : Int) :
    e + place b 0 ≤ place (a * mantissaAt b 0) (e + place b 0) := by
  have hplace := hb.place_le
  have hlog : b.log2 < 53 := (Nat.log2_lt hb.pos.ne').2 hb.bits
  have hleading : place b 0 = b.log2 - 52 := by
    rw [place, minExponent]
    omega
  have hfactor : 2 ^ 52 ≤ a * mantissaAt b 0 := by
    have hself := Nat.log2_self_le hb.pos.ne'
    calc 2 ^ 52 = 2 ^ b.log2 * 2 ^ (0 - place b 0).toNat := by
          rw [← pow_add, hleading]
          congr 1
          omega
      _ ≤ mantissaAt b 0 := Nat.mul_le_mul_right _ hself
      _ ≤ a * mantissaAt b 0 := Nat.le_mul_of_pos_left _ ha
  have hbits : 52 ≤ (a * mantissaAt b 0).log2 :=
    (Nat.le_log2 (Nat.mul_pos ha (mantissaAt_pos hb.pos 0)).ne').2 hfactor
  have hproduct : ((a * mantissaAt b 0).log2 : Int) + (e + place b 0) - 52 ≤
      place (a * mantissaAt b 0) (e + place b 0) := le_max_left _ _
  omega

/-- Multiplying by a natural is exact where the product has no more than 53 bits. -/
theorem dyadic_mul (hn : Exact n q) (hpos : 0 < n) (hm : Exact m 0) (hnonneg : 0 ≤ m)
    (hproduct : Exact (n * m) q) : dyadic n q * dyadic m 0 = dyadic (n * m) q := by
  have hmul : UnpackedFloat.mul Format.binary64 (normalize Format.binary64 n q .positive)
      (normalize Format.binary64 m 0 .positive) =
        normalize Format.binary64 (n * m) q .positive := by
    have hn0 : n ≠ 0 := hpos.ne'
    have hsign : ∀ {k : Int}, 0 ≤ k → signOf k = .positive := fun hk => if_neg (not_lt.2 hk)
    rw [normalize_finite hn hn0, hsign hpos.le]
    by_cases hm0 : m = 0
    · subst hm0
      rw [mul_zero, normalize_zero]
      rfl
    · have hmn0 : n * m ≠ 0 := mul_ne_zero hn0 hm0
      have hshort := hproduct.short hmn0
      have hplacen := (hn.short hn0).place_le
      have hplacem := (hm.short hm0).place_le
      rw [normalize_finite hm hm0, normalize_finite hproduct hmn0, hsign hnonneg,
        hsign (mul_nonneg hpos.le hnonneg)]
      have hvalue : mantissaAt n.natAbs q * mantissaAt m.natAbs 0 =
          (n * m).natAbs * 2 ^ (q - place n.natAbs q + (0 - place m.natAbs 0)).toNat := by
        rw [mantissaAt, mantissaAt, Int.natAbs_mul, Nat.mul_mul_mul_comm, ← pow_add]
        congr 2
        omega
      have hexponent : place n.natAbs q + place m.natAbs 0 =
          q - ((q - place n.natAbs q + (0 - place m.natAbs 0)).toNat : Int) := by omega
      have hlow := place_le_of_factor (mantissaAt_pos (hn.short hn0).pos q) (hm.short hm0)
        (place n.natAbs q)
      rw [hvalue, hexponent, place_scaled hshort.pos] at hlow
      change roundWithAccuracy Format.binary64 .positive
        (mantissaAt n.natAbs q * mantissaAt m.natAbs 0) (place n.natAbs q + place m.natAbs 0)
          .exact = _
      rw [hvalue, hexponent]
      exact roundWithAccuracy_scaled hshort .positive hlow
  change Float.ofModel (Float.Model.pack (UnpackedFloat.mul Format.binary64
    (dyadic n q).toModel.unpack (dyadic m 0).toModel.unpack)) = _
  rw [unpack_dyadic hn, unpack_dyadic hm, hmul]
  rfl

/-- A natural of no more than 53 bits is a double. -/
theorem toFloat_eq_dyadic {k : Nat} (h : k < 2 ^ 53) : k.toFloat = dyadic k 0 := by
  have hexact : Exact k 0 := ⟨by simpa using h, by decide, by decide⟩
  have hone : Float.exactlyRepresentablePowersOfTen[0] = dyadic 1 0 := by decide +kernel
  have hword : k.toUInt64.toFloat = dyadic k 0 := by
    have hbits : k.toUInt64.toNat = k := by
      change k % 2 ^ 64 = k
      omega
    change Float.ofModel (Float.Model.pack (normalize Format.binary64 (k.toUInt64.toNat : Int) 0
      .positive)) = _
    rw [hbits]
    rfl
  have hscientific : k.toFloat = k.toUInt64.toFloat * Float.exactlyRepresentablePowersOfTen[0] := by
    change Float.ofScientific k false 0 = _
    rw [Float.ofScientific, dif_pos ⟨h, by decide⟩]
    rfl
  rw [hscientific, hword, hone]
  rcases Nat.eq_zero_or_pos k with rfl | hpos
  · decide +kernel
  · have hproduct := dyadic_mul hexact (by exact_mod_cast hpos) (m := 1)
      ⟨by decide, by decide, by decide⟩ (by decide) (by rwa [mul_one])
    rw [hproduct, mul_one]

end MetricFacade.Number
