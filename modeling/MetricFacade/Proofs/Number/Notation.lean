import Mathlib.Algebra.Group.Nat.Defs
import Mathlib.Data.List.Basic
import MetricFacade.Number.Notation
import MetricFacade.Number.Reading
import MetricFacade.Proofs.Text.Span

/-!
# The shapes of written numbers

A magnitude is written as digits, with at most one point and digits on both sides of it. The sign
comes from one bit, and the magnitude of a double has it cleared.

Results:

* `ofDigits_toDigits`, `ofDigits_append_zeros`, `ofDigits_zeros_append`: what digits stand for.
* `positional_shape`: what is written positionally.
* `isNegative_abs`: a magnitude is not negative.
-/
namespace MetricFacade.Number

open Float.Model UnpackedFloat

/-! ## Signs -/

/-- With the sign bit cleared the bits stay below it. -/
theorem packComponents_positive_lt (exponent : BitVec 11) (mantissa : BitVec 52) :
    (packComponents Format.binary64 .positive exponent mantissa).toNat < 2 ^ 63 := by
  have hupper : (Sign.positive.toBitVec ++ exponent).toNat < 2 ^ 11 := by
    rw [BitVec.toNat_append]
    exact Nat.or_lt_two_pow (by decide) exponent.isLt
  rw [packComponents, BitVec.toNat_append, Nat.shiftLeft_eq]
  refine Nat.or_lt_two_pow ?_ ?_
  · exact Nat.lt_of_lt_of_eq (Nat.mul_lt_mul_of_pos_right hupper (by decide)) (by decide)
  · exact Nat.lt_trans mantissa.isLt (by decide)

theorem pack_abs_lt (u : UnpackedFloat) : (UnpackedFloat.pack Format.binary64 u.abs).toNat < 2 ^ 63 := by
  cases u with
  | notANumber => exact packComponents_positive_lt _ _
  | infinity s => exact packComponents_positive_lt _ _
  | zero s => exact packComponents_positive_lt _ _
  | finite s m e hm =>
    delta UnpackedFloat.abs UnpackedFloat.pack
    dsimp only
    split_ifs <;> exact packComponents_positive_lt _ _

theorem isNegative_abs (x : Float) : isNegative x.abs = false := by
  rw [isNegative, decide_eq_false_iff_not, Nat.not_le]
  exact pack_abs_lt x.toModel.unpack

/-! ## Digits -/

theorem isDigit_of_mem_zeros {n : Nat} {c : Char} (h : c ∈ zeros n) : c.isDigit := by
  rw [List.eq_of_mem_replicate h]
  rfl

/-- Some digits and nothing else. -/
structure AllDigits (cs : List Char) : Prop where
  ne_nil : cs ≠ []
  digit : ∀ c ∈ cs, c.isDigit

/-- Digits are taken to their last. -/
theorem AllDigits.span {ds rest : List Char} (h : AllDigits ds) (hrest : rest.head?.any isDigit = false) :
    (ds ++ rest).takeWhile isDigit = ds ∧ (ds ++ rest).dropWhile isDigit = rest :=
  Text.takeWhile_run h.digit hrest

theorem allDigits_toDigits (n : Nat) : AllDigits (Nat.toDigits 10 n) where
  ne_nil := Nat.toDigits_ne_nil
  digit := fun _ hc => Nat.isDigit_of_mem_toDigits (by decide) (by decide) hc

theorem allDigits_zero : AllDigits ['0'] :=
  allDigits_toDigits 0

theorem allDigits_zeros_append {n : Nat} {ds : List Char} (h : AllDigits ds) : AllDigits (zeros n ++ ds) :=
  ⟨by simp [h.ne_nil], List.forall_mem_append.2 ⟨fun _ => isDigit_of_mem_zeros, h.digit⟩⟩

theorem allDigits_append_zeros {n : Nat} {ds : List Char} (h : AllDigits ds) : AllDigits (ds ++ zeros n) :=
  ⟨by simp [h.ne_nil], List.forall_mem_append.2 ⟨h.digit, fun _ => isDigit_of_mem_zeros⟩⟩

theorem allDigits_magnitude (tie : Tie) (x : Float) : AllDigits (magnitudeDigits tie x).written := by
  unfold magnitudeDigits
  split
  · exact allDigits_zero
  · exact allDigits_toDigits _

theorem head?_toDigits_ne {n : Nat} (h : n ≠ 0) : (Nat.toDigits 10 n).head? ≠ some '0' := by
  induction n using Nat.strongRecOn with
  | ind n ih =>
    by_cases hsmall : n < 10
    · have hchars : ∀ k < 10, k ≠ 0 → k.digitChar ≠ '0' := by decide
      simpa [Nat.toDigits_of_lt_base hsmall] using hchars n hsmall h
    · rw [Nat.toDigits_of_base_le (by decide) (Nat.not_lt.1 hsmall),
        List.head?_append_of_ne_nil _ Nat.toDigits_ne_nil]
      exact ih (n / 10) (by omega) (by omega)

/-! ## What digits stand for -/

theorem ofDigits_toDigits (n : Nat) : ofDigits (Nat.toDigits 10 n) = n :=
  Nat.ofDigitChars_toDigits (by decide) (by decide)

theorem ofDigits_append (cs ds : List Char) :
    ofDigits (cs ++ ds) = Nat.ofDigitChars 10 ds (ofDigits cs) :=
  Nat.ofDigitChars_append 0

theorem ofDigits_append_zeros (ds : List Char) (n : Nat) :
    ofDigits (ds ++ zeros n) = 10 ^ n * ofDigits ds := by
  rw [ofDigits_append, zeros, Nat.ofDigitChars_replicate_zero]

theorem ofDigits_zeros_append (n : Nat) (ds : List Char) : ofDigits (zeros n ++ ds) = ofDigits ds := by
  rw [ofDigits_append]
  have hzeros := ofDigits_append_zeros [] n
  rw [List.nil_append] at hzeros
  rw [hzeros]
  rfl

/-! ## Shapes -/

/-- Digits alone, or digits on both sides of a point. -/
theorem positional_shape {d : Digits} (h : AllDigits d.written) :
    AllDigits d.positional ∨
      ∃ whole behind, d.positional = whole ++ '.' :: behind ∧ AllDigits whole ∧ AllDigits behind := by
  unfold Digits.positional
  split_ifs with hsmall hwhole
  · right
    exact ⟨['0'], zeros (-d.point).toNat ++ d.written, rfl, allDigits_zero, allDigits_zeros_append h⟩
  · left
    exact allDigits_append_zeros h
  · right
    have hbetween : 0 < d.point.toNat ∧ d.point.toNat < d.written.length := by
      rw [Digits.isWhole, decide_eq_true_eq] at hwhole
      omega
    refine ⟨_, _, rfl, ⟨?_, fun c hc => h.digit c (List.mem_of_mem_take hc)⟩, ?_,
      fun c hc => h.digit c (List.mem_of_mem_drop hc)⟩
    · simpa using ⟨by omega, h.ne_nil⟩
    · simpa using hbetween.2

end MetricFacade.Number
