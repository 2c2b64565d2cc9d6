import MetricFacade.Proofs.Number.Nearest

/-!
# Shortest decimals read back

The search for a shortest decimal only ends with one that rounds to the double it was made
for, and the exact decimal, which closes the search, does so too. Zeros taken off its end
leave the number as it is.

Results:

* `shortest_nearestBits`: the shortest decimal of a magnitude rounds to that magnitude.
-/
namespace MetricFacade.Number

variable {tie : Tie} {bits : Nat}

theorem digit_eq_zero {n : Nat} (h : (n % 10).digitChar = '0') : n % 10 = 0 := by
  have hchars : ∀ k < 10, k.digitChar = '0' → k = 0 := by decide
  exact hchars _ (Nat.mod_lt _ (by decide)) h

/-- The zeros at the end of the digits are a power of ten in the number. -/
theorem pow_trailingZeros_dvd (n : Nat) (h : 0 < n) :
    10 ^ ((Nat.toDigits 10 n).reverse.takeWhile (· = '0')).length ∣ n := by
  induction n using Nat.strongRecOn with
  | ind n ih =>
    by_cases hsmall : n < 10
    · have hchars : ∀ k < 10, 0 < k → ¬ k.digitChar = '0' := by decide
      rw [Nat.toDigits_of_lt_base hsmall]
      simp [hchars n hsmall h]
    · have hbase : 10 ≤ n := not_lt.1 hsmall
      rw [Nat.toDigits_of_base_le (by decide) hbase, List.reverse_append]
      by_cases hzero : (n % 10).digitChar = '0'
      · have hdvd := ih (n / 10) (by omega) (by omega)
        have hn : n / 10 * 10 = n := Nat.div_mul_cancel (Nat.dvd_of_mod_eq_zero (digit_eq_zero hzero))
        simp only [List.reverse_singleton, List.singleton_append, List.takeWhile_cons, hzero,
          decide_true, if_true, List.length_cons, pow_succ]
        calc _ ∣ n / 10 * 10 := Nat.mul_dvd_mul_right hdvd 10
          _ = n := hn
      · simp [hzero]

theorem Decimal.trimmed_value (d : Decimal) : d.trimmed.value = d.value := by
  unfold Decimal.trimmed
  split_ifs with hzero
  · simp [Decimal.value, hzero]
  · have hdvd := pow_trailingZeros_dvd d.digits (Nat.pos_of_ne_zero hzero)
    dsimp only [Decimal.value]
    generalize ((Nat.toDigits 10 d.digits).reverse.takeWhile (· = '0')).length = zeros at *
    have hcancel : ((d.digits / 10 ^ zeros : Nat) : ℚ) * 10 ^ zeros = d.digits := by
      exact_mod_cast Nat.div_mul_cancel hdvd
    rw [Nat.pow_eq, add_comm, zpow_add₀ (by norm_num), zpow_natCast, ← mul_assoc, hcancel]

theorem exactDecimal_value (m : Nat) (q : Int) : (exactDecimal m q).value = m * 2 ^ q := by
  unfold exactDecimal
  split_ifs with hq
  · have hpow : (2 : ℚ) ^ q = 2 ^ q.toNat := by
      rw [← zpow_natCast]
      congr 1
      omega
    simp [Decimal.value, hpow]
  · obtain ⟨k, rfl⟩ : ∃ k : Nat, q = -k := ⟨(-q).toNat, by omega⟩
    have hten : (10 : ℚ) ^ k = 5 ^ k * 2 ^ k := by rw [← mul_pow]; norm_num
    simp only [Decimal.value, neg_neg, Int.toNat_natCast, Nat.pow_eq, Nat.cast_mul, Nat.cast_pow,
      Nat.cast_ofNat, zpow_neg, zpow_natCast, hten]
    field_simp

theorem readingBack_nearestBits {num den : Nat} {exponent : Int} {d : Decimal}
    (h : readingBack tie bits num den exponent = some d) : d.nearestBits = bits := by
  have hchecked : ∀ pair : Decimal × Decimal,
      (if pair.1.nearestBits = bits then some pair.1
        else if pair.2.nearestBits = bits then some pair.2 else none) = some d →
      d.nearestBits = bits := by
    intro pair hpair
    split_ifs at hpair with hfirst hsecond
    · cases hpair
      exact hfirst
    · cases hpair
      exact hsecond
  exact hchecked _ h

/-- The shortest decimal of a magnitude rounds to it. -/
theorem shortest_nearestBits (tie : Tie) (h : bits < infinityBits) :
    (shortest tie bits).nearestBits = bits := by
  rcases Nat.eq_zero_or_pos bits with rfl | hpos
  · rfl
  · have hm := significand_pos hpos
    rw [shortest]
    dsimp only
    rw [if_neg hm.ne', Decimal.nearestBits_congr (Decimal.trimmed_value _)]
    generalize hfound : List.findSome? _ (List.range 17) = found
    cases found with
    | none => exact Decimal.nearestBits_exact hpos h (exactDecimal_value _ _)
    | some d =>
      obtain ⟨p, -, hp⟩ := List.exists_of_findSome?_eq_some hfound
      exact readingBack_nearestBits hp

theorem shortest_digits_ne_zero (hpos : 0 < bits) (h : bits < infinityBits) :
    (shortest tie bits).digits ≠ 0 := by
  intro hzero
  have hbits := shortest_nearestBits tie h
  rw [Decimal.nearestBits, if_pos (.inl hzero)] at hbits
  omega

end MetricFacade.Number
