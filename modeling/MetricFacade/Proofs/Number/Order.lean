/-!
# The order of doubles

Comparisons of doubles are not total: nothing holds of what is not a number. On finite
doubles they are.

Results:

* `compare_finite`: two finite doubles compare, and the other way around with the opposite.
* `not_le_iff`: of two finite doubles, what is not at most the other is above it.
-/
namespace MetricFacade.Number

open Float.Model UnpackedFloat

theorem compare_finite {a b : UnpackedFloat} (ha : a.isFinite) (hb : b.isFinite) :
    ∃ o, a.compare b = some o ∧ b.compare a = some o.swap := by
  cases a with
  | infinity | notANumber => cases ha
  | zero =>
    cases b with
    | infinity | notANumber => cases hb
    | zero => exact ⟨.eq, rfl, rfl⟩
    | finite s => cases s with
      | negative => exact ⟨.gt, rfl, rfl⟩
      | positive => exact ⟨.lt, rfl, rfl⟩
  | finite s m e =>
    cases b with
    | infinity | notANumber => cases hb
    | zero => cases s with
      | negative => exact ⟨.lt, rfl, rfl⟩
      | positive => exact ⟨.gt, rfl, rfl⟩
    | finite t n f =>
      have hswap : ((compare e f).then (compare m n)).swap = (compare f e).then (compare n m) := by
        rw [Ordering.swap_then, Int.compare_swap, Nat.compare_swap]
      cases s with
      | negative => cases t with
        | negative =>
          refine ⟨_, rfl, ?_⟩
          rw [hswap]
          rfl
        | positive => exact ⟨.lt, rfl, rfl⟩
      | positive => cases t with
        | negative => exact ⟨.gt, rfl, rfl⟩
        | positive =>
          refine ⟨_, rfl, ?_⟩
          rw [hswap]
          rfl

theorem not_le_iff {a b : Float} (ha : a.isFinite) (hb : b.isFinite) : ¬ b ≤ a ↔ a < b := by
  obtain ⟨o, hab, hba⟩ := compare_finite (a := a.toModel.unpack) (b := b.toModel.unpack) ha hb
  have hle : b ≤ a ↔ o.swap.isLE := by
    change (decide (b.toModel.unpack.le a.toModel.unpack)) = true ↔ _
    simp [UnpackedFloat.le, hba]
  have hlt : a < b ↔ o = .lt := by
    change (decide (a.toModel.unpack.lt b.toModel.unpack)) = true ↔ _
    simp [UnpackedFloat.lt, hab]
  rw [hle, hlt]
  cases o <;> decide

end MetricFacade.Number
