import MetricFacade.Proofs.Catalog
import MetricFacade.Proofs.WellFormed

/-!
# Ladders of what compiles

The bounds of a formulaic ladder are told from its parameters, without expanding it: the `i`-th is
the start after `i` steps. Rounding may swallow a step, or carry a late one out of range, so the
conditions on the parameters alone do not make a ladder climb.

Results:

* `rising_iff`, `rising_ladder_iff`: bounds that strictly increase, place by place.
* `Spec.sound_iff_buildable`: a specification without fault, told by its parameters.
* `resolvedBuckets_of_histogram`: a histogram resolves to some specification, whatever the policy.
* `fault?_none_and_compiled`: both together, for the specification and for what compiles.
-/
namespace MetricFacade

namespace Bucket

/-- The bounds at the places of a list are finite, and each is below the next. -/
theorem rising_iff {bounds : List Float} :
    Rising bounds ↔ (∀ b ∈ bounds, b.isFinite) ∧
      ∀ i (h : i + 1 < bounds.length), bounds[i] < bounds[i + 1] := by
  rw [Rising, List.isChain_iff_getElem]

/-- Of the `count` values that begin with `start`, each further one made from the one before, all
are finite and each is below the next. -/
structure Climbs (step : Float → Float) (count : Nat) (start : Float) : Prop where
  finite : ∀ i < count, (step^[i] start).isFinite
  increasing : ∀ i, i + 1 < count → step^[i] start < step^[i + 1] start

theorem rising_ladder_iff {step : Float → Float} {count : Nat} {start : Float} :
    Rising (ladder step count start) ↔ Climbs step count start := by
  rw [rising_iff, ladder_eq_iterate]
  simp only [List.forall_mem_map, List.mem_range, List.length_map, List.length_range,
    List.getElem_map, List.getElem_range]
  exact ⟨fun h => ⟨h.1, h.2⟩, fun h => ⟨h.finite, h.increasing⟩⟩

namespace Spec

/-- What the parameters of a specification have to be for a histogram to be built with it. -/
def Buildable : Spec → Prop
  | explicit values =>
    values ≠ [] ∧ (∀ v ∈ values, v.isFinite) ∧
      ∀ i (h : i + 1 < values.length), values[i] < values[i + 1]
  | exponential start factor count =>
    1 ≤ count ∧ count ≤ 10000 ∧ start.isFinite ∧ 0 < start ∧ factor.isFinite ∧ 1 < factor ∧
      Climbs (· * factor) count start
  | linear start width count =>
    1 ≤ count ∧ count ≤ 10000 ∧ start.isFinite ∧ width.isFinite ∧ 0 < width ∧
      Climbs (· + width) count start
  | standard => True

theorem sound_iff_buildable {spec : Spec} : spec.Sound ↔ spec.Buildable := by
  cases spec with
  | explicit values => rw [Sound, Buildable, rising_iff]
  | exponential start factor count =>
    rw [Sound, Buildable, rising_ladder_iff, maxCount]
    simp only [and_assoc]
  | linear start width count =>
    rw [Sound, Buildable, rising_ladder_iff, maxCount]
    simp only [and_assoc]
  | standard => exact Iff.rfl

/-- How many bounds a formula asks for. -/
def count? : Spec → Option Nat
  | exponential _ _ count | linear _ _ count => some count
  | explicit _ | standard => none

theorem Sound.rising {spec : Spec} (h : spec.Sound) : Rising spec.bounds :=
  (fault?_split.1 (fault?_eq_none_iff.2 h)).2

theorem Sound.bounds_ne_nil {spec : Spec} (h : spec.Sound) : spec.bounds ≠ [] := by
  cases spec with
  | explicit values => exact h.1
  | exponential start factor count | linear start factor count =>
    have hcount : 1 ≤ count := h.1.1
    rw [bounds, ← List.length_pos_iff_ne_nil, length_ladder]
    exact hcount
  | standard => exact List.cons_ne_nil _ _

theorem length_bounds {spec : Spec} {n : Nat} (h : spec.count? = some n) :
    spec.bounds.length = n := by
  cases spec with
  | explicit | standard => cases h
  | exponential start factor count | linear start factor count =>
    cases h
    exact length_ladder _ _ _

end Spec

end Bucket

open Bucket MetricFacade.Metric

/-- A histogram has a specification, which expands to bounds that strictly increase, as many as it
asks for; no other metric has any. -/
structure Metric.Resolved.Laid (m : Resolved) : Prop where
  histogram : m.kind = .histogram → ∃ spec, m.buckets = some spec ∧ spec.bounds ≠ [] ∧
    Rising spec.bounds ∧ ∀ n, spec.count? = some n → spec.bounds.length = n
  other : m.kind ≠ .histogram → m.buckets = none

theorem resolvedBuckets_of_histogram {d : Declaration} (h : d.kind = .histogram) :
    ∃ spec, d.resolvedBuckets = some spec :=
  ⟨_, if_pos h⟩

theorem resolvedBuckets_of_other {d : Declaration} (h : d.kind ≠ .histogram) :
    d.resolvedBuckets = none :=
  if_neg h

theorem laid_resolve {d : Declaration} (h : ∀ spec ∈ d.resolvedBuckets, spec.Sound) :
    d.resolve.Laid where
  histogram := by
    intro hkind
    obtain ⟨spec, hspec⟩ := resolvedBuckets_of_histogram hkind
    have hsound := h spec hspec
    exact ⟨spec, hspec, hsound.bounds_ne_nil, hsound.rising, fun n => Spec.length_bounds⟩
  other := resolvedBuckets_of_other

/-- **A specification has no fault exactly if it can be built.** So, under either policy, every
histogram of what compiles has a specification with bounds that strictly increase, and as many of
them as it asks for, and no counter or gauge has any. -/
theorem fault?_none_and_compiled :
    (∀ spec : Spec, spec.fault? = none ↔ spec.Buildable) ∧
      ∀ policy ds fs, compile policy ds = .ok fs →
        (∀ d ∈ ds, d.resolve.Laid) ∧ ∀ f ∈ fs, ∀ m ∈ f.metrics, m.Laid := by
  constructor
  · intro spec
    rw [Spec.fault?_eq_none_iff, Spec.sound_iff_buildable]
  · intro policy ds fs h
    obtain ⟨rfl, -, hsound⟩ := compile_ok h
    have hlaid : ∀ d ∈ ds, d.resolve.Laid := fun d hd => laid_resolve (hsound d hd)
    refine ⟨hlaid, fun f hf m hm => ?_⟩
    rw [(mem_facades.1 hf).2] at hm
    obtain ⟨d, hd, rfl⟩ := List.mem_map.1 hm
    exact hlaid d (List.mem_filter.1 hd).1

/-- The width is swallowed by the first addition, and the third bound is out of range. -/
example : (Spec.linear 1e17 1 3).fault? = some (.notIncreasing 1e17 1e17) ∧
    (Spec.exponential 1 1e200 3).fault? = some (.boundNotFinite (1e200 * 1e200)) := by
  decide +kernel

/-- A gauge with buckets, a histogram with two annotations and one with none. -/
def laxSample : List Declaration :=
  [⟨"app", "Size", .gauge, none, "", [], [.linear 0 1 2]⟩,
   ⟨"app", "Wait", .histogram, none, "", [], [.linear 0 1 2, .exponential 1 2 3]⟩,
   ⟨"app", "Age", .histogram, none, "", [], []⟩]

theorem laxSample_laid :
    compile .lenient laxSample = .ok (facades laxSample) ∧ ∀ d ∈ laxSample, d.resolve.Laid := by
  have hcompiled : compile .lenient laxSample = .ok (facades laxSample) :=
    compile_eq_ok_iff.2 ⟨by decide +kernel, rfl⟩
  exact ⟨hcompiled, (fault?_none_and_compiled.2 _ _ _ hcompiled).1⟩

end MetricFacade
