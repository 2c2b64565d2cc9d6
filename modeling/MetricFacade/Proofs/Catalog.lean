import MetricFacade.Catalog
import MetricFacade.Proofs.Grouping

/-!
# The facades of a set of declarations

Results:

* `mem_facades`: which facades there are, and what is in them.
* `nodup_scopes_facades`: one facade for a namespace.
-/
namespace MetricFacade

open MetricFacade.Metric

variable {ds : List Declaration}

/-- The declarations of one namespace, in order. -/
def declaredIn (ds : List Declaration) (scope : String) : List Declaration :=
  ds.filter fun d => d.scope = scope

theorem mem_facades {f : Facade} :
    f ∈ facades ds ↔
      (∃ d ∈ ds, d.scope = f.scope) ∧ f.metrics = (declaredIn ds f.scope).map (·.resolve) := by
  obtain ⟨scope, metrics⟩ := f
  have hgroup : (scope, metrics) ∈ groupBy textLe (·.scope) (ds.map (·.resolve)) ↔
      (∃ d ∈ ds, d.scope = scope) ∧ metrics = (declaredIn ds scope).map (·.resolve) := by
    rw [mem_groupBy, List.filter_map]
    simp only [List.mem_map, exists_exists_and_eq_and]
    rfl
  rw [← hgroup, facades, List.mem_map]
  constructor
  · rintro ⟨⟨_, _⟩, hmem, heq⟩
    cases heq
    exact hmem
  · intro hmem
    exact ⟨_, hmem, rfl⟩

theorem nodup_scopes_facades : ((facades ds).map (·.scope)).Nodup := by
  rw [facades, List.map_map]
  exact nodup_keys_groupBy

end MetricFacade
