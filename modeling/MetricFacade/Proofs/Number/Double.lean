import Mathlib
import MetricFacade.Number.Double

/-!
# Sign and magnitude

How a double is packed is known from `Batteries.Data.Float.Lemmas`, which no part of Mathlib brings
in, only the whole of it.

Results:

* `magnitudeBits_lt`: the magnitude of a finite double ends before infinity.
* `ofBits_magnitudeBits`, `neg_ofBits_magnitudeBits`: a double is its magnitude with its sign.
* `abs_eq`: the magnitude as a double.
-/
namespace MetricFacade.Number

open Float.Model UnpackedFloat

variable {x : Float}

/-! ## The packed fields -/

theorem unpackExponent_toNat (b : BitVec 64) :
    (@unpackExponent Format.binary64 b).toNat = b.toNat % 2 ^ 63 / 2 ^ 52 := by
  rw [unpackExponent_def]
  simp only [BitVec.extractLsb'_toNat]
  change b.toNat >>> 52 % 2 ^ 11 = _
  rw [Nat.shiftRight_eq_div_pow]
  omega

theorem unpackMantissa_toNat (b : BitVec 64) :
    (@unpackMantissa Format.binary64 b).toNat = b.toNat % 2 ^ 52 := by
  rw [unpackMantissa_def]
  simp only [BitVec.extractLsb'_toNat]
  rfl

theorem unpackSign_toNat (b : BitVec 64) :
    (@unpackSign Format.binary64 b).toNat = b.toNat / 2 ^ 63 := by
  have hlt := b.isLt
  rw [unpackSign_def]
  simp only [BitVec.extractLsb'_toNat]
  change b.toNat >>> 63 % 2 ^ 1 = _
  rw [Nat.shiftRight_eq_div_pow]
  omega

/-- The exponent field of a finite double is not all ones. -/
theorem unpackExponent_ne (h : x.isFinite) :
    @unpackExponent Format.binary64 x.toBits.toBitVec ≠ -1#_ := by
  intro hall
  have hunpack : (UnpackedFloat.unpack Format.binary64 x.toBits.toBitVec).isFinite := h
  rw [UnpackedFloat.unpack] at hunpack
  dsimp only at hunpack
  rw [if_pos hall] at hunpack
  split at hunpack <;> cases hunpack

theorem magnitudeBits_lt (h : x.isFinite) : magnitudeBits x < infinityBits := by
  have hexponent : (@unpackExponent Format.binary64 x.toBits.toBitVec).toNat ≠ 2047 :=
    fun hall => unpackExponent_ne h (BitVec.eq_of_toNat_eq hall)
  rw [unpackExponent_toNat] at hexponent
  have hlow : x.toBits.toNat % 2 ^ 63 < 2 ^ 63 := Nat.mod_lt _ (by decide)
  have hinfinity : infinityBits = 2047 * 2 ^ 52 := rfl
  change x.toBits.toNat % 2 ^ 63 < infinityBits
  change x.toBits.toNat % 2 ^ 63 / 2 ^ 52 ≠ 2047 at hexponent
  omega

/-! ## Putting the sign back -/

theorem ofBits_magnitudeBits (h : isNegative x = false) :
    Float.ofBits (magnitudeBits x).toUInt64 = x := by
  have hbits : x.toBits.toNat < Nat.pow 2 63 := by
    rw [isNegative, decide_eq_false_iff_not, not_le] at h
    exact h
  have hmagnitude : (magnitudeBits x).toUInt64 = x.toBits := by
    rw [magnitudeBits, Nat.mod_eq_of_lt hbits]
    simp
  rw [hmagnitude, Float.ofBits_toBits]

/-- Fields alike but for the sign. -/
theorem unpack_eq_neg {b c : BitVec 64} (hlow : b.toNat = c.toNat % 2 ^ 63)
    (hhigh : 2 ^ 63 ≤ c.toNat) :
    UnpackedFloat.unpack Format.binary64 b = (UnpackedFloat.unpack Format.binary64 c).neg := by
  have hlt := c.isLt
  have hexponent : @unpackExponent Format.binary64 b = @unpackExponent Format.binary64 c :=
    BitVec.eq_of_toNat_eq (by rw [unpackExponent_toNat, unpackExponent_toNat, hlow, Nat.mod_mod])
  have hmantissa : @unpackMantissa Format.binary64 b = @unpackMantissa Format.binary64 c :=
    BitVec.eq_of_toNat_eq (by rw [unpackMantissa_toNat, unpackMantissa_toNat]; omega)
  have hb : @unpackSign Format.binary64 b = 0#1 :=
    BitVec.eq_of_toNat_eq (by rw [unpackSign_toNat]; simp; omega)
  have hc : @unpackSign Format.binary64 c = 1#1 :=
    BitVec.eq_of_toNat_eq (by rw [unpackSign_toNat]; simp; omega)
  simp only [UnpackedFloat.unpack, hexponent, hmantissa, hb, hc]
  split_ifs <;> rfl

theorem neg_neg_unpacked (u : UnpackedFloat) : u.neg.neg = u := by
  have hsign : ∀ s : Sign, - -s = s := by rintro (_ | _) <;> rfl
  cases u with
  | notANumber => rfl
  | infinity s => simp [UnpackedFloat.neg, hsign]
  | zero s => simp [UnpackedFloat.neg, hsign]
  | finite s m e hm => simp [UnpackedFloat.neg, hsign]

theorem magnitude_toNat (x : Float) :
    (magnitudeBits x).toUInt64.toNat = x.toBits.toNat % 2 ^ 63 := by
  have hlt : x.toBits.toNat % 2 ^ 63 < 2 ^ 63 := Nat.mod_lt _ (by decide)
  change x.toBits.toNat % 2 ^ 63 % 2 ^ 64 = x.toBits.toNat % 2 ^ 63
  omega

/-- The magnitude of a finite double is a finite double's bits. -/
theorem valid_magnitude (h : x.isFinite) :
    Format.binary64.Valid (magnitudeBits x).toUInt64.toBitVec := by
  have hlow := magnitude_toNat x
  generalize (magnitudeBits x).toUInt64 = m at hlow
  refine ⟨fun hall _ => absurd ?_ (unpackExponent_ne h)⟩
  rw [← hall]
  apply BitVec.eq_of_toNat_eq
  rw [unpackExponent_toNat, unpackExponent_toNat]
  change x.toBits.toNat % 2 ^ 63 / 2 ^ 52 = m.toNat % 2 ^ 63 / 2 ^ 52
  rw [hlow, Nat.mod_mod]

theorem neg_ofBits_magnitudeBits (h : x.isFinite) (hnegative : isNegative x = true) :
    -Float.ofBits (magnitudeBits x).toUInt64 = x := by
  have hhigh : 2 ^ 63 ≤ x.toBits.toNat := of_decide_eq_true hnegative
  have hneg := unpack_eq_neg (magnitude_toNat x) hhigh
  have hpacked := pack_unpack_of_valid (valid_magnitude h)
  apply Float.toBits_inj.1
  apply UInt64.toBitVec_inj.1
  change UnpackedFloat.pack Format.binary64 (UnpackedFloat.unpack Format.binary64
    (UnpackedFloat.pack Format.binary64
      (UnpackedFloat.unpack Format.binary64 (magnitudeBits x).toUInt64.toBitVec))).neg = _
  rw [hpacked, hneg, neg_neg_unpacked]
  exact pack_unpack_of_valid x.toModel.valid

/-! ## Magnitudes as doubles -/

theorem toBits_ofBits_magnitudeBits (h : x.isFinite) :
    (Float.ofBits (magnitudeBits x).toUInt64).toBits = (magnitudeBits x).toUInt64 :=
  UInt64.toBitVec_inj.1 (pack_unpack_of_valid (valid_magnitude h))

theorem abs_unpack_of_lt {b : BitVec 64} (h : b.toNat < 2 ^ 63) :
    (UnpackedFloat.unpack Format.binary64 b).abs = UnpackedFloat.unpack Format.binary64 b := by
  have hb : @unpackSign Format.binary64 b = 0#1 :=
    BitVec.eq_of_toNat_eq (by rw [unpackSign_toNat]; simp; omega)
  simp only [UnpackedFloat.unpack, hb]
  split_ifs <;> rfl

theorem abs_neg_unpacked (u : UnpackedFloat) : u.neg.abs = u.abs := by
  cases u <;> rfl

theorem unpack_magnitude (x : Float) :
    UnpackedFloat.unpack Format.binary64 (magnitudeBits x).toUInt64.toBitVec =
      x.toModel.unpack.abs := by
  have hlow := magnitude_toNat x
  have hlt : (magnitudeBits x).toUInt64.toNat < 2 ^ 63 := by
    rw [hlow]
    exact Nat.mod_lt _ (by decide)
  change _ = (UnpackedFloat.unpack Format.binary64 x.toBits.toBitVec).abs
  by_cases hhigh : 2 ^ 63 ≤ x.toBits.toNat
  · rw [← abs_neg_unpacked, ← unpack_eq_neg hlow hhigh]
    exact (abs_unpack_of_lt hlt).symm
  · have hsame : (magnitudeBits x).toUInt64 = x.toBits := by
      rw [← UInt64.toNat_inj, hlow]
      omega
    rw [hsame]
    exact (abs_unpack_of_lt (by simpa using hhigh)).symm

/-- The magnitude of a double is its bits less the sign. -/
theorem abs_eq (x : Float) : x.abs = Float.ofBits (magnitudeBits x).toUInt64 :=
  congrArg (fun u => Float.ofModel (Float.Model.pack u)) (unpack_magnitude x).symm

theorem toBits_abs (h : x.isFinite) : x.abs.toBits = (magnitudeBits x).toUInt64 := by
  rw [abs_eq, toBits_ofBits_magnitudeBits h]

theorem magnitudeBits_abs (h : x.isFinite) : magnitudeBits x.abs = magnitudeBits x := by
  have hlow := magnitude_toNat x
  rw [magnitudeBits, toBits_abs h, hlow]
  exact Nat.mod_mod _ _

theorem isFinite_abs (h : x.isFinite) : x.abs.isFinite := by
  have hbits : x.abs.toModel.unpack = x.toModel.unpack.abs := by
    rw [← unpack_magnitude, ← toBits_abs h]
    rfl
  change x.abs.toModel.unpack.isFinite
  change x.toModel.unpack.isFinite at h
  rw [hbits]
  cases hx : x.toModel.unpack with
  | notANumber | infinity => rw [hx] at h; cases h
  | zero | finite => rfl

end MetricFacade.Number
