import MetricFacade.Json.Writer
import MetricFacade.Proofs.Json.NumberParts
import MetricFacade.Proofs.Number.Double
import MetricFacade.Proofs.Number.Shortest

/-!
# Written numbers read back

A reader of numbers is the inverse of their writer if it takes every integer and every finite
double for what was written. One that rounds the digits to the nearest double is, since the
digits are the shortest that round to the double.

Results:

* `around_small`, `around_whole`, `around_split`: digits around a point come to the decimal.
* `readsAs_switching`: the text of a decimal stands for its value.
* `inverse_nearest`: rounding to the nearest double is an inverse of writing.
* `splitNumberNode?_gathered`: the running reader gives back naturals of 64 bits.
-/
namespace MetricFacade.Json

open Number

/-! ## Readers of numbers -/

/-- The number that the parts stand for. -/
def NumberParts.decimal (p : NumberParts) : Decimal :=
  let fraction := p.fraction.getD []
  ⟨ofDigits (p.whole ++ fraction), p.exponent.getD 0 - fraction.length⟩

/-- Digits alone are an integer of any size, anything else is the nearest double. -/
def NumberParts.nearest (negative : Bool) (p : NumberParts) : Node :=
  if p.fraction.isNone ∧ p.exponent.isNone then
    .int (if negative then -(ofDigits p.whole : Int) else ofDigits p.whole)
  else .double (if negative then -p.decimal.nearest else p.decimal.nearest)

/-! ## Doubles -/

/-- A number with a point or an exponent, and the value it stands for. -/
def ReadsAs (cs : List Char) (value : ℚ) : Prop :=
  ∃ p, splitNumber? cs = some (p, []) ∧ (p.fraction.isSome ∨ p.exponent.isSome) ∧
    p.decimal.value = value

variable {d : Decimal} {whole behind : List Char}

/-- Digits around a point that come to the decimal. -/
structure Around (d : Decimal) (whole behind : List Char) : Prop where
  before : AllDigits whole
  noLeadingZero : NoLeadingZero whole
  after : AllDigits behind
  value : (Decimal.mk (ofDigits (whole ++ behind)) (-behind.length)).value = d.value

theorem Around.readsAs (h : Around d whole behind) : ReadsAs (whole ++ '.' :: behind) d.value := by
  have hfraction := @splitFraction?_point [] _ h.after rfl
  rw [List.append_nil] at hfraction
  refine ⟨_, splitNumber?_of_parts h.before h.noLeadingZero rfl hfraction rfl, .inl rfl, ?_⟩
  rw [← h.value]
  simp [NumberParts.decimal]

/-- The digits of a decimal, as they are written. -/
def digitsOf (d : Decimal) : Digits :=
  ⟨Nat.toDigits 10 d.digits, d.exponent + (Nat.toDigits 10 d.digits).length⟩

theorem allDigits_digitsOf : AllDigits (digitsOf d).written :=
  allDigits_toDigits d.digits

theorem ofDigits_digitsOf : ofDigits (digitsOf d).written = d.digits :=
  ofDigits_toDigits d.digits

theorem digitsOf_point : (digitsOf d).point = d.exponent + (digitsOf d).written.length :=
  rfl

theorem around_small (h : (digitsOf d).point ≤ 0) :
    Around d ['0'] (zeros (-(digitsOf d).point).toNat ++ (digitsOf d).written) := by
  have hpoint := @digitsOf_point d
  have hdigits : ofDigits (['0'] ++ (zeros (-(digitsOf d).point).toNat ++ (digitsOf d).written)) =
      d.digits := by
    rw [show ['0'] = zeros 1 from rfl, ofDigits_zeros_append, ofDigits_zeros_append, ofDigits_digitsOf]
  have hexponent : -((zeros (-(digitsOf d).point).toNat ++ (digitsOf d).written).length : Int) =
      d.exponent := by
    simp only [List.length_append, zeros, List.length_replicate]
    omega
  have hbehind := @allDigits_zeros_append (-(digitsOf d).point).toNat _ (@allDigits_digitsOf d)
  refine ⟨allDigits_zero, fun _ => rfl, hbehind, ?_⟩
  rw [hdigits, hexponent]

theorem around_whole (hzero : d.digits = 0 → d.exponent = 0) (h : (digitsOf d).isWhole) :
    Around d ((digitsOf d).written ++ zeros ((digitsOf d).point.toNat - (digitsOf d).written.length))
      ['0'] := by
  have hlength : ((digitsOf d).written.length : Int) ≤ (digitsOf d).point := of_decide_eq_true h
  have hpoint := @digitsOf_point d
  generalize hfill : (digitsOf d).point.toNat - (digitsOf d).written.length = fill
  have hlead : NoLeadingZero ((digitsOf d).written ++ zeros fill) := by
    rw [NoLeadingZero, List.head?_append_of_ne_nil _ allDigits_digitsOf.ne_nil]
    intro hhead
    have hone := noLeadingZero_toDigits d.digits hhead
    have hnone : d.digits = 0 := not_not.1 fun hne => head?_toDigits_ne hne hhead
    have hexponent := hzero hnone
    simp only [List.length_append, zeros, List.length_replicate]
    change (digitsOf d).written.length = 1 at hone
    omega
  have hdigits : ofDigits ((digitsOf d).written ++ zeros fill ++ ['0']) = 10 ^ (fill + 1) * d.digits := by
    rw [show ['0'] = zeros 1 from rfl, List.append_assoc, zeros, zeros, List.replicate_append_replicate]
    rw [← zeros, ofDigits_append_zeros, ofDigits_digitsOf]
  refine ⟨allDigits_append_zeros allDigits_digitsOf, hlead, allDigits_zero, ?_⟩
  have hexponent : d.exponent = fill := by omega
  rw [hdigits, Decimal.value, Decimal.value, hexponent]
  push_cast
  rw [pow_succ, zpow_natCast]
  simp only [List.length_singleton, Nat.cast_one, zpow_neg, zpow_one]
  ring

theorem around_split (hsmall : ¬ (digitsOf d).point ≤ 0) (h : ¬ (digitsOf d).isWhole) :
    Around d ((digitsOf d).written.take (digitsOf d).point.toNat)
      ((digitsOf d).written.drop (digitsOf d).point.toNat) := by
  have hlength : ¬ ((digitsOf d).written.length : Int) ≤ (digitsOf d).point := by
    simpa [Digits.isWhole] using h
  have hpoint := @digitsOf_point d
  have hall := @allDigits_digitsOf d
  have hwhole : AllDigits ((digitsOf d).written.take (digitsOf d).point.toNat) :=
    ⟨by simpa using ⟨by omega, hall.ne_nil⟩, fun c hc => hall.digit c (List.mem_of_mem_take hc)⟩
  have hbehind : AllDigits ((digitsOf d).written.drop (digitsOf d).point.toNat) :=
    ⟨by simp; omega, fun c hc => hall.digit c (List.mem_of_mem_drop hc)⟩
  have hlead : NoLeadingZero ((digitsOf d).written.take (digitsOf d).point.toNat) := by
    rw [NoLeadingZero, List.head?_take, if_neg (by omega)]
    intro hhead
    have hone : (digitsOf d).written.length = 1 := noLeadingZero_toDigits d.digits hhead
    omega
  refine ⟨hwhole, hlead, hbehind, ?_⟩
  rw [List.take_append_drop, ofDigits_digitsOf]
  have hexponent : -(((digitsOf d).written.drop (digitsOf d).point.toNat).length : Int) = d.exponent := by
    rw [List.length_drop]
    omega
  rw [hexponent]

theorem readsAs_scientific : ReadsAs (digitsOf d).scientific d.value := by
  have hpoint := @digitsOf_point d
  have hall := @allDigits_digitsOf d
  have hdigits := @ofDigits_digitsOf d
  generalize digitsOf d = written at *
  obtain ⟨ds, point⟩ := written
  obtain ⟨first, behind, rfl⟩ := List.exists_cons_of_ne_nil hall.ne_nil
  have hpower := splitPower?_letter (point - 1)
  have hfirst : AllDigits [first] := ⟨by simp, by simpa using hall.digit first (by simp)⟩
  have hlead : NoLeadingZero [first] := fun _ => rfl
  cases behind with
  | nil =>
    have hexponent : point - 1 - (([] : List Char).length : Int) = d.exponent := by
      simpa using sub_eq_of_eq_add hpoint
    refine ⟨_, splitNumber?_of_parts hfirst hlead rfl rfl hpower, .inr rfl, ?_⟩
    rw [Decimal.value, Decimal.value, ← hdigits, ← hexponent]
    rfl
  | cons second behind =>
    have hbehind : AllDigits (second :: behind) :=
      ⟨by simp, fun c hc => hall.digit c (List.mem_cons_of_mem first hc)⟩
    have hexponent : point - 1 - ((second :: behind).length : Int) = d.exponent := by
      simp only [List.length_cons] at hpoint ⊢
      omega
    have hnumber := splitNumber?_of_parts hfirst hlead rfl (splitFraction?_point hbehind rfl) hpower
    refine ⟨_, hnumber, .inl rfl, ?_⟩
    rw [Decimal.value, Decimal.value, ← hdigits, ← hexponent]
    rfl

theorem readsAs_switching (hzero : d.digits = 0 → d.exponent = 0) :
    ReadsAs (digitsOf d).switching d.value := by
  have hlength : 0 < (digitsOf d).written.length := Nat.length_toDigits_pos
  rw [Digits.switching]
  split_ifs with hrange hwhole
  · have hsmall : ¬ (digitsOf d).point ≤ 0 := by
      have hlong : ((digitsOf d).written.length : Int) ≤ (digitsOf d).point := of_decide_eq_true hwhole
      omega
    rw [Digits.positional, if_neg hsmall, if_pos hwhole]
    exact (around_whole hzero hwhole).readsAs
  · rw [Digits.positional]
    split_ifs with hsmall
    · exact (around_small hsmall).readsAs
    · exact (around_split hsmall hwhole).readsAs
  · exact readsAs_scientific

/-! ## Rounding to the nearest double -/

theorem shortest_zero {tie : Tie} {bits : Nat} (h : bits < infinityBits)
    (hzero : (shortest tie bits).digits = 0) : (shortest tie bits).exponent = 0 := by
  rcases Nat.eq_zero_or_pos bits with rfl | hpos
  · rfl
  · exact absurd hzero (shortest_digits_ne_zero hpos h)

/-- Zero has the digits of its decimal, too. -/
theorem magnitudeDigits_eq (tie : Tie) (x : Float) :
    magnitudeDigits tie x = digitsOf (shortest tie (magnitudeBits x)) := by
  unfold magnitudeDigits
  split_ifs with hzero
  · have hshortest : shortest tie 0 = ⟨0, 0⟩ := rfl
    rw [hzero, hshortest]
    rfl
  · rfl

/-- The value alone decides to which double a number with a point or an exponent is rounded. -/
theorem NumberParts.nearest_eq {p : NumberParts} {d : Decimal} (negative : Bool)
    (hpart : p.fraction.isSome ∨ p.exponent.isSome) (hvalue : p.decimal.value = d.value) :
    p.nearest negative = .double (if negative then -d.nearest else d.nearest) := by
  have hmixed : ¬ (p.fraction.isNone ∧ p.exponent.isNone) := by
    rintro ⟨hfraction, hexponent⟩
    rcases hpart with hsome | hsome <;> simp_all
  rw [NumberParts.nearest, if_neg hmixed, Decimal.nearest, Decimal.nearest,
    Decimal.nearestBits_congr hvalue]

theorem splitNumberNode?_switching {x : Float} (hx : x.isFinite) :
    splitNumberNode? NumberParts.nearest (switching x) = some (.double x, []) := by
  have hbits := magnitudeBits_lt hx
  obtain ⟨p, hnumber, hpart, hvalue⟩ := readsAs_switching (@shortest_zero .even _ hbits)
  have hnearest : (shortest .even (magnitudeBits x)).nearest = Float.ofBits (magnitudeBits x).toUInt64 := by
    rw [Decimal.nearest, shortest_nearestBits .even hbits]
  rw [switching, magnitudeDigits_eq, signed]
  split_ifs with hsign
  · rw [splitNumberNode?, hnumber, Option.map_some]
    dsimp only
    rw [NumberParts.nearest_eq true hpart hvalue, hnearest, if_pos rfl,
      neg_ofBits_magnitudeBits hx hsign]
  · rw [splitNumberNode?_unsigned (splitNumber?_head hnumber), hnumber, Option.map_some]
    dsimp only
    rw [NumberParts.nearest_eq false hpart hvalue, hnearest, if_neg Bool.false_ne_true,
      ofBits_magnitudeBits (Bool.eq_false_iff.2 hsign)]

/-- Digits alone are taken as they stand. -/
theorem NumberParts.nearest_whole (negative : Bool) (n : Nat) :
    NumberParts.nearest negative ⟨Nat.toDigits 10 n, none, none⟩ =
      .int (if negative then -(n : Int) else n) := by
  simp [NumberParts.nearest, ofDigits_toDigits]

/-- The parts of digits alone. -/
theorem splitNumber?_toDigits (n : Nat) :
    splitNumber? (Nat.toDigits 10 n) = some (⟨Nat.toDigits 10 n, none, none⟩, []) := by
  have hdigits := @splitNumber?_of_parts [] [] _ none none (allDigits_toDigits n)
    (noLeadingZero_toDigits n) rfl rfl rfl
  rwa [List.append_nil] at hdigits

/-- An integer without a sign is written as its digits. -/
theorem splitNumberNode?_nat {number : Bool → NumberParts → Node} (n : Nat) :
    splitNumberNode? number (toString (n : Int)).toList =
      some (number false ⟨Nat.toDigits 10 n, none, none⟩, []) := by
  rw [Int.toString_eq_repr, Int.repr_eq_if, if_pos (Int.natCast_nonneg n), Int.toNat_natCast,
    Nat.repr_eq_ofList_toDigits, String.toList_ofList,
    splitNumberNode?_unsigned (splitNumber?_head (splitNumber?_toDigits n)), splitNumber?_toDigits,
    Option.map_some]

theorem splitNumberNode?_int (n : Int) :
    splitNumberNode? NumberParts.nearest (toString n).toList = some (.int n, []) := by
  by_cases hsign : 0 ≤ n
  · obtain ⟨k, rfl⟩ := Int.eq_ofNat_of_zero_le hsign
    rw [splitNumberNode?_nat, NumberParts.nearest_whole, if_neg Bool.false_ne_true]
  · rw [Int.toString_eq_repr, Int.repr_eq_if, if_neg hsign, Nat.repr_eq_ofList_toDigits,
      String.toList_append, String.toList_ofList, String.toList_ofList, List.singleton_append,
      splitNumberNode?, splitNumber?_toDigits, Option.map_some]
    dsimp only
    rw [NumberParts.nearest_whole, if_pos rfl, Int.toNat_of_nonneg (by omega), neg_neg]

theorem inverse_nearest : Inverse NumberParts.nearest where
  int := splitNumberNode?_int
  double _ := splitNumberNode?_switching

/-! ## Gathering digits in 64 bits -/

theorem gathered_digit {n m : Nat} (hm : m < 10) (h : 10 * n + m < significandLimit) :
    Gathered.whole ⟨n, 0⟩ m.digitChar = ⟨10 * n + m, 0⟩ := by
  have hdigit : ∀ k < 10, digitValue k.digitChar = k := by decide
  rw [Gathered.whole, hdigit m hm]
  exact if_pos ⟨rfl, h⟩

/-- No digit of a number that fits is dropped. -/
theorem gathered_toDigits {n : Nat} (h : n < significandLimit) :
    (Nat.toDigits 10 n).foldl Gathered.whole ⟨0, 0⟩ = ⟨n, 0⟩ := by
  induction n using Nat.strongRecOn with
  | ind n ih =>
    by_cases hsmall : n < 10
    · have hstep := @gathered_digit 0 n hsmall (by omega)
      rw [Nat.mul_zero, Nat.zero_add] at hstep
      rw [Nat.toDigits_of_lt_base hsmall]
      exact hstep
    · have hsplit : 10 * (n / 10) + n % 10 = n := Nat.div_add_mod n 10
      have hstep := @gathered_digit (n / 10) (n % 10) (Nat.mod_lt n (by decide)) (by omega)
      rw [Nat.toDigits_of_base_le (by decide) (Nat.not_lt.1 hsmall), List.foldl_append,
        ih (n / 10) (by omega) (by omega)]
      rw [hsplit] at hstep
      exact hstep

/-- A natural of 64 bits is read back. -/
theorem splitNumberNode?_gathered {n : Nat} (h : n < significandLimit) :
    splitNumberNode? NumberParts.node (toString (n : Int)).toList = some (.int n, []) := by
  rw [splitNumberNode?_nat, NumberParts.node, gathered_toDigits h]
  rfl

/-- Whether the running reader gives a double back. -/
def returned (x : Float) : Bool :=
  match splitNumberNode? NumberParts.node (switching x) with
  | some (.double y, []) => y = x
  | _ => false

theorem returned_iff {x : Float} :
    returned x ↔ splitNumberNode? NumberParts.node (switching x) = some (.double x, []) := by
  unfold returned
  split
  · next y heq => simp [heq]
  · next hother =>
    refine iff_of_false Bool.false_ne_true fun heq => ?_
    exact hother x heq

/-- A quotient of doubles is rounded twice, so the running reader is no inverse of the writer. -/
example : returned 0.002 ∧ ¬ returned 3.3333333333333335e-10 := by
  decide +kernel

end MetricFacade.Json
