import Mathlib.Data.List.Nodup
import MetricFacade.Proofs.Registry.AllOrNothing

/-!
# One collector under a key

A registry takes no second collector under a key, so what it holds it holds once.

Results:

* `KeysDistinct.register`, `KeysDistinct.unregister`, `KeysDistinct.registerAll`: every
  operation keeps the keys distinct.
* `KeysDistinct.holdsOnce`: then a collector that is there is there once.
* `collectors_registerAll_ok`, `collectors_registerAll_error`: what a list of collectors leaves.
-/
namespace MetricFacade.Registry

variable {σ : Type} [Digest]

/-- No two collectors are kept under one key. -/
def KeysDistinct (r : Registry σ) : Prop :=
  (r.collectors.map (·.key)).Nodup

/-- The collector is there, and nothing else under its key. -/
def HoldsOnce (r : Registry σ) (c : Collector σ) : Prop :=
  ∃ before after, r.collectors = before ++ c :: after ∧ ∀ d ∈ before ++ after, d.key ≠ c.key

namespace KeysDistinct

variable {r : Registry σ}

theorem holdsOnce (h : r.KeysDistinct) {c : Collector σ} (hc : c ∈ r.collectors) :
    r.HoldsOnce c := by
  obtain ⟨before, after, hsplit⟩ := List.append_of_mem hc
  refine ⟨before, after, hsplit, fun d hd heq => ?_⟩
  unfold KeysDistinct at h
  rw [hsplit, List.map_append, List.map_cons, List.nodup_middle, ← List.map_append,
    List.nodup_cons] at h
  exact h.1 (List.mem_map.2 ⟨d, hd, heq⟩)

theorem register (h : r.KeysDistinct) (c : Collector σ) : (r.register c).1.KeysDistinct := by
  unfold KeysDistinct at h ⊢
  cases hresult : (r.register c).2 with
  | error why => rwa [(register_error (Prod.ext rfl hresult)).1]
  | ok _ =>
    obtain ⟨hcollectors, -, hnew, -⟩ := register_ok (Prod.ext rfl hresult)
    rw [hcollectors, List.map_append, List.nodup_append]
    refine ⟨h, by simp, ?_⟩
    intro key hkey key' hkey'
    obtain ⟨d, hd, rfl⟩ := List.mem_map.1 hkey
    rw [List.map_singleton, List.mem_singleton] at hkey'
    rw [hkey']
    exact hnew d hd

theorem unregister {τ : Type} (h : r.KeysDistinct) (c : Collector τ) :
    (r.unregister c).1.KeysDistinct := by
  unfold Registry.unregister
  split
  · exact h.sublist (List.filter_sublist.map _)
  · exact h

theorem unregisterEach {τ : Type} (h : r.KeysDistinct) (cs : List (Collector τ)) :
    (r.unregisterEach cs).KeysDistinct := by
  unfold Registry.unregisterEach
  induction cs generalizing r with
  | nil => exact h
  | cons c cs ih => exact ih (h.unregister c)

theorem registerFrom (h : r.KeysDistinct) (before : List (Collector Unit))
    (cs : List (Collector σ)) : (registerFrom before r cs).1.KeysDistinct := by
  induction cs generalizing before r with
  | nil => exact h
  | cons c rest ih =>
    have hnext := h.register c
    unfold Registry.registerFrom
    split
    · next heq => rw [heq] at hnext; exact hnext.unregisterEach before
    · next heq => rw [heq] at hnext; exact ih hnext _

theorem registerAll (h : r.KeysDistinct) (cs : List (Collector σ)) :
    (r.registerAll cs).1.KeysDistinct :=
  h.registerFrom [] cs

end KeysDistinct

/-! ## Lists of collectors -/

theorem collectors_registerAll_ok {r r' : Registry σ} {cs : List (Collector σ)}
    (h : r.registerAll cs = (r', .ok ())) : r'.collectors = r.collectors ++ cs := by
  have hends : r.Ends cs (r.registerAll cs) :=
    ends_registerFrom (show r.TakesEach [] from trivial) cs
  rw [h] at hends
  exact hends.2.1

theorem collectors_registerAll_error {r r' : Registry σ} {cs : List (Collector σ)}
    {why : Rejection} (h : r.registerAll cs = (r', .error why)) :
    r'.collectors = r.collectors ∧ r'.ids = r.ids := by
  have hends : r.Ends cs (r.registerAll cs) :=
    ends_registerFrom (show r.TakesEach [] from trivial) cs
  rw [h] at hends
  obtain ⟨-, -, -, -, -, -, -, -, hcollectors, hids⟩ := hends
  exact ⟨hcollectors, hids⟩

end MetricFacade.Registry
