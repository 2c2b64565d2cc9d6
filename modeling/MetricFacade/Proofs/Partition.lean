import MetricFacade.Proofs.Catalog
import MetricFacade.Proofs.Text.ByteOrder
import MetricFacade.Proofs.WellFormed

/-!
# How the facades share out the metrics

A set of declarations that compiles becomes facades by way of resolving, checking and
grouping. What comes out can be said without any of it: the namespaces ascend, every declared
namespace has its facade, and a facade holds the metrics of its namespace in their order. Only
one list of facades is such, so nothing is left open.

Results:

* `partition_facades`: grouping gives a partition.
* `Partition.unique`: there is no other.
* `compile_iff_partition`: what compiling answers, for every set of declarations.
-/
namespace MetricFacade

open MetricFacade.Metric

/-- The facades share out what was declared. -/
structure Partition (ds : List Declaration) (fs : List Facade) : Prop where
  /-- The namespaces ascend strictly, byte by byte. -/
  ascending : fs.Pairwise fun f g => Text.bytes f.scope < Text.bytes g.scope
  /-- Every declared namespace has exactly one facade. -/
  one : ∀ d ∈ ds, ∃! f, f ∈ fs ∧ f.scope = d.scope
  /-- No facade is empty, so no namespace has one that nothing is declared in. -/
  nonempty : ∀ f ∈ fs, f.metrics ≠ []
  /-- A facade holds what its namespace declares, resolved and in order. -/
  metrics : ∀ f ∈ fs, f.metrics = (declaredIn ds f.scope).map (·.resolve)
  /-- No metric is lost, doubled or made up. -/
  whole : (fs.flatMap (·.metrics)).Perm (ds.map (·.resolve))

variable {ds : List Declaration} {fs gs : List Facade}

/-! ## Grouping gives a partition -/

theorem facades_ascending :
    (facades ds).Pairwise fun f g => Text.bytes f.scope < Text.bytes g.scope := by
  have hkeys : ((facades ds).map (·.scope)).Pairwise (· < ·) := by
    rw [facades, List.map_map]
    exact textKeys_ascending
  rw [List.pairwise_map] at hkeys
  exact hkeys.imp Text.bytes_lt_iff.2

theorem exists_unique_facade {d : Declaration} (hd : d ∈ ds) :
    ∃! f, f ∈ facades ds ∧ f.scope = d.scope := by
  refine ⟨⟨d.scope, (declaredIn ds d.scope).map (·.resolve)⟩, ⟨?_, rfl⟩, ?_⟩
  · exact mem_facades.2 ⟨⟨d, hd, rfl⟩, rfl⟩
  · rintro ⟨scope, metrics⟩ ⟨hf, hscope⟩
    have hmetrics := (mem_facades.1 hf).2
    dsimp only at hscope hmetrics
    rw [hmetrics, hscope]

theorem metrics_ne_nil {f : Facade} (hf : f ∈ facades ds) : f.metrics ≠ [] := by
  obtain ⟨⟨d, hd, hscope⟩, hmetrics⟩ := mem_facades.1 hf
  have hdeclared : d ∈ declaredIn ds f.scope := List.mem_filter.2 ⟨hd, decide_eq_true hscope⟩
  rw [hmetrics]
  exact List.ne_nil_of_mem (List.mem_map_of_mem hdeclared)

theorem facades_whole : ((facades ds).flatMap (·.metrics)).Perm (ds.map (·.resolve)) := by
  rw [facades, List.flatMap_map]
  exact groups_perm

theorem partition_facades (ds : List Declaration) : Partition ds (facades ds) where
  ascending := facades_ascending
  one := fun _ hd => exists_unique_facade hd
  nonempty := fun _ hf => metrics_ne_nil hf
  metrics := fun _ hf => (mem_facades.1 hf).2
  whole := facades_whole

/-! ## There is no other -/

namespace Partition

theorem mem_scopes (h : Partition ds fs) {scope : String} :
    scope ∈ fs.map (·.scope) ↔ ∃ d ∈ ds, d.scope = scope := by
  constructor
  · intro hscope
    obtain ⟨f, hf, rfl⟩ := List.mem_map.1 hscope
    have hne := h.nonempty f hf
    rw [h.metrics f hf, ne_eq, List.map_eq_nil_iff] at hne
    obtain ⟨d, hd⟩ := List.exists_mem_of_ne_nil _ hne
    obtain ⟨hin, hscope⟩ := List.mem_filter.1 hd
    exact ⟨d, hin, of_decide_eq_true hscope⟩
  · rintro ⟨d, hd, rfl⟩
    obtain ⟨f, ⟨hf, hscope⟩, -⟩ := h.one d hd
    exact List.mem_map.2 ⟨f, hf, hscope⟩

theorem scopes_ascending (h : Partition ds fs) : (fs.map (·.scope)).Pairwise (· < ·) := by
  rw [List.pairwise_map]
  exact h.ascending.imp Text.bytes_lt_iff.1

/-- The namespaces say what all the facades are. -/
theorem eq_map_scopes (h : Partition ds fs) :
    fs = (fs.map (·.scope)).map fun scope => ⟨scope, (declaredIn ds scope).map (·.resolve)⟩ := by
  rw [List.map_map]
  refine (List.map_id fs).symm.trans (List.map_congr_left fun f hf => ?_)
  rw [Function.comp_apply, ← h.metrics f hf]
  rfl

theorem unique (h : Partition ds fs) (h' : Partition ds gs) : fs = gs := by
  have hperm : (fs.map (·.scope)).Perm (gs.map (·.scope)) := by
    rw [List.perm_ext_iff_of_nodup (h.scopes_ascending.imp ne_of_lt)
      (h'.scopes_ascending.imp ne_of_lt)]
    intro scope
    rw [h.mem_scopes, h'.mem_scopes]
  have hscopes : fs.map (·.scope) = gs.map (·.scope) := by
    have hasymm : ∀ a b : String, a ∈ fs.map (·.scope) → b ∈ gs.map (·.scope) →
        a < b → b < a → a = b := fun _ _ _ _ hab hba => absurd hba (lt_asymm hab)
    exact hperm.eq_of_pairwise hasymm h.scopes_ascending h'.scopes_ascending
  rw [h.eq_map_scopes, hscopes, ← h'.eq_map_scopes]

end Partition

/-- **What compiles is shared out by namespace, whole and in order.** Compiling answers with
facades exactly if there is no violation, and then with the one partition of the metrics that
there is; otherwise it answers with all violations and no facade. -/
theorem compile_iff_partition (policy : BucketPolicy) (ds : List Declaration) :
    (∀ fs, compile policy ds = .ok fs ↔ violations policy ds = [] ∧ Partition ds fs) ∧
      ∀ vs, compile policy ds = .error vs ↔ vs ≠ [] ∧ vs = violations policy ds := by
  constructor
  · intro fs
    rw [compile_eq_ok_iff]
    refine and_congr_right fun _ => ⟨?_, ?_⟩
    · rintro rfl
      exact partition_facades ds
    · intro h
      exact h.unique (partition_facades ds)
  · intro vs
    unfold compile
    cases hvs : violations policy ds with
    | nil => simp
    | cons v rest =>
      constructor
      · intro h
        cases h
        exact ⟨List.cons_ne_nil v rest, rfl⟩
      · rintro ⟨-, rfl⟩
        rfl

/-- Namespaces that take turns, one the beginning of another. -/
def turnsSample : List Declaration :=
  [⟨"b::c", "X", .counter, none, "", [], []⟩, ⟨"a", "Y", .gauge, none, "", [], []⟩,
   ⟨"b", "Z", .counter, none, "", [], []⟩, ⟨"b::c", "W", .histogram, none, "", [], []⟩]

example : (facades turnsSample).map (fun f => (f.scope, f.metrics.map (·.name))) =
    [("a", ["Y"]), ("b", ["Z"]), ("b::c", ["X", "W"])] := by decide +kernel

end MetricFacade
