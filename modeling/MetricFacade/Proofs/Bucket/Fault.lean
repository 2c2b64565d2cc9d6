import Mathlib.Data.List.Chain
import Mathlib.Logic.Function.Iterate
import MetricFacade.Bucket.Fault
import MetricFacade.Proofs.Number.Order

/-!
# Specifications without fault

Results:

* `fault?_eq_none_iff`: a specification has no fault exactly when its parameters are in range
  and its bounds are finite and strictly increase.
* `rising_standardLadder`: the standard ladder is such.
* `ladder_eq_iterate`: the bounds of a ladder that is made step by step.
-/
namespace MetricFacade.Bucket

/-- The bounds are finite and each is below the next. -/
def Rising (bounds : List Float) : Prop :=
  (∀ b ∈ bounds, b.isFinite) ∧ bounds.IsChain (· < ·)

/-- A histogram can be built with the specification. -/
def Spec.Sound : Spec → Prop
  | explicit values => values ≠ [] ∧ Rising values
  | exponential start factor count =>
    (1 ≤ count ∧ count ≤ maxCount) ∧ (start.isFinite ∧ 0 < start) ∧
      (factor.isFinite ∧ 1 < factor) ∧ Rising (ladder (· * factor) count start)
  | linear start width count =>
    (1 ≤ count ∧ count ≤ maxCount) ∧ start.isFinite ∧ (width.isFinite ∧ 0 < width) ∧
      Rising (ladder (· + width) count start)
  | standard => True

theorem firstDescent_eq_none {bounds : List Float} (h : ∀ b ∈ bounds, b.isFinite) :
    firstDescent bounds = none ↔ bounds.IsChain (· < ·) := by
  match bounds with
  | [] | [_] => simp [firstDescent]
  | a :: b :: rest =>
    have hab := Number.not_le_iff (h a (by simp)) (h b (by simp))
    have hrest : firstDescent (b :: rest) = none ↔ (b :: rest).IsChain (· < ·) :=
      firstDescent_eq_none fun c hc => h c (List.mem_cons_of_mem a hc)
    rw [List.isChain_cons_cons, ← hrest, ← hab, firstDescent]
    by_cases hle : b ≤ a
    · simp [hle]
    · simp [hle]

theorem ladderFault_eq_none {bounds : List Float} :
    ladderFault bounds = none ↔ Rising bounds := by
  unfold ladderFault Rising
  constructor
  · intro h
    split at h
    · cases h
    · next hfind =>
      have hfinite : ∀ b ∈ bounds, b.isFinite := by simpa using hfind
      exact ⟨hfinite, (firstDescent_eq_none hfinite).1 h⟩
  · rintro ⟨hfinite, hchain⟩
    have hfind : bounds.find? (fun b => !b.isFinite) = none := by simpa using hfinite
    rw [hfind]
    exact (firstDescent_eq_none hfinite).2 hchain

/-- Behind a guard that found nothing stands what the rest finds. -/
theorem guarded_eq_none {α : Type} {p : Prop} [Decidable p] {a : α} {rest : Option α} :
    (if p then some a else rest) = none ↔ ¬ p ∧ rest = none := by
  by_cases hp : p
  · simp [hp]
  · simp [hp]

theorem countFault_eq_none (kind : Kind) {count : Nat} :
    countFault kind count = none ↔ 1 ≤ count ∧ count ≤ maxCount := by
  rw [countFault, guarded_eq_none, guarded_eq_none, eq_self, and_true]
  omega

theorem finite_zero : (0 : Float).isFinite := by decide
theorem finite_one : (1 : Float).isFinite := by decide

theorem rising_standardLadder : Rising standardLadder :=
  ladderFault_eq_none.1 (by decide +kernel)

theorem ladder_eq_iterate (step : Float → Float) (count : Nat) (start : Float) :
    ladder step count start = (List.range count).map fun i => step^[i] start := by
  induction count generalizing start with
  | zero => rfl
  | succ count ih =>
    rw [ladder, ih, List.range_succ_eq_map, List.map_cons, List.map_map]
    rfl

theorem length_ladder (step : Float → Float) (count : Nat) (start : Float) :
    (ladder step count start).length = count := by
  rw [ladder_eq_iterate, List.length_map, List.length_range]

/-- What the two formulaic ladders ask of a number that has to be above another. -/
theorem above_iff {x low : Float} (hlow : low.isFinite) :
    ¬ (!x.isFinite || decide (x ≤ low)) = true ↔ x.isFinite ∧ low < x := by
  by_cases hx : x.isFinite
  · simp [hx, ← Number.not_le_iff hlow hx]
  · simp [hx]

theorem parameterFault_exponential {start factor : Float} {count : Nat} :
    (Spec.exponential start factor count).parameterFault = none ↔
      (1 ≤ count ∧ count ≤ maxCount) ∧ (start.isFinite ∧ 0 < start) ∧
        (factor.isFinite ∧ 1 < factor) := by
  rw [← countFault_eq_none .exponential, ← above_iff finite_zero, ← above_iff finite_one,
    Spec.parameterFault]
  cases countFault .exponential count with
  | some fault => simp
  | none =>
    dsimp only
    rw [guarded_eq_none, guarded_eq_none]
    simp only [true_and, and_true]

theorem parameterFault_linear {start width : Float} {count : Nat} :
    (Spec.linear start width count).parameterFault = none ↔
      (1 ≤ count ∧ count ≤ maxCount) ∧ start.isFinite ∧ (width.isFinite ∧ 0 < width) := by
  rw [← countFault_eq_none .linear, ← above_iff finite_zero, Spec.parameterFault]
  cases countFault .linear count with
  | some fault => simp
  | none =>
    dsimp only
    rw [guarded_eq_none, guarded_eq_none]
    simp only [Bool.not_eq_true', Bool.not_eq_false, true_and, and_true]

namespace Spec

theorem fault?_split {spec : Spec} :
    spec.fault? = none ↔ spec.parameterFault = none ∧ Rising spec.bounds := by
  rw [fault?, ← ladderFault_eq_none]
  cases spec.parameterFault with
  | some fault => simp
  | none => simp

/-- No fault is found exactly in the sound specifications. -/
theorem fault?_eq_none_iff {spec : Spec} : spec.fault? = none ↔ spec.Sound := by
  rw [fault?_split]
  cases spec with
  | explicit values => simp [parameterFault, Sound, bounds]
  | exponential start factor count =>
    rw [parameterFault_exponential, Sound, bounds]
    simp only [and_assoc]
  | linear start width count =>
    rw [parameterFault_linear, Sound, bounds]
    simp only [and_assoc]
  | standard => simp [parameterFault, Sound, bounds, rising_standardLadder]

end Spec

end MetricFacade.Bucket
