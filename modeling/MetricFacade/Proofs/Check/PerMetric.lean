import Mathlib.Data.List.Nodup
import MetricFacade.Check.Buckets
import MetricFacade.Check.Names
import MetricFacade.Proofs.Bucket.Fault
import MetricFacade.Proofs.Check.Spelling
import MetricFacade.Proofs.Sorting

/-!
# The rules that look at one metric

When each of the checks that take the metrics one by one finds nothing.

Results:

* `illegalNames_eq_nil`: all names are well spelled.
* `illegalLabels_eq_nil`: all labels are well spelled and stand once, and so do the parameters.
* `illegalBuckets_strict_eq_nil`: every metric has the annotations it can have.
* `fault_of_illegalBuckets`: whatever the policy, what a histogram resolves to is sound.
-/
namespace MetricFacade.Check

open MetricFacade.Metric

variable {ds : List Declaration}

/-! ## Names -/

theorem illegalNames_eq_nil : illegalNames ds = [] ↔ ∀ d ∈ ds, NameShape d.resolvedName := by
  unfold illegalNames
  rw [List.flatMap_eq_nil_iff]
  refine forall₂_congr fun d _ => ?_
  rw [← isName_iff, illegalName]
  split
  · next h => simp [h]
  · next h => simp [h]

/-! ## Labels -/

/-- The parameters that labels become, in order. -/
def paramsOf (labels : List String) : List String :=
  labels.zipIdx.map fun (label, i) => Rust.Ident.param label i

theorem paramsOf_append (a b : List String) :
    paramsOf (a ++ b) =
      paramsOf a ++ (b.zipIdx a.length).map fun (label, i) => Rust.Ident.param label i := by
  simp [paramsOf, List.zipIdx_append]

theorem paramsOf_concat (a : List String) (label : String) :
    paramsOf (a ++ [label]) = paramsOf a ++ [Rust.Ident.param label a.length] := by
  simp [paramsOf_append]

/-- What a parameter owes to its label alone, some parameter has exactly if some label does. -/
theorem exists_mem_paramsOf {P Q : String → Prop}
    (h : ∀ label i, P (Rust.Ident.param label i) ↔ Q label) (labels : List String) :
    (∃ p ∈ paramsOf labels, P p) ↔ ∃ label ∈ labels, Q label := by
  constructor
  · rintro ⟨p, hp, hP⟩
    obtain ⟨⟨label, i⟩, hmem, rfl⟩ := List.mem_map.1 hp
    exact ⟨label, List.fst_mem_of_mem_zipIdx hmem, (h label i).1 hP⟩
  · rintro ⟨label, hlabel, hQ⟩
    rw [← List.zipIdx_map_fst 0 labels] at hlabel
    obtain ⟨⟨label, i⟩, hmem, rfl⟩ := List.mem_map.1 hlabel
    exact ⟨Rust.Ident.param label i, List.mem_map_of_mem hmem, (h label i).2 hQ⟩

theorem claimant?_eq_none {param : String} {earlier : List String} :
    claimant? param earlier = none ↔ param ∉ paramsOf earlier := by
  simp [claimant?, paramsOf]

theorem claimant?_mem {param first : String} {earlier : List String}
    (h : claimant? param earlier = some first) : first ∈ earlier := by
  unfold claimant? at h
  obtain ⟨⟨label, i⟩, hfound, rfl⟩ := Option.map_eq_some_iff.1 h
  have hin := List.mem_of_find?_eq_some hfound
  exact (List.mem_zipIdx' hin).2 ▸ List.getElem_mem _

/-- The labels of one metric, as the accessor needs them. -/
structure LabelsFit (labels : List String) : Prop where
  spelled : ∀ label ∈ labels, LabelShape label
  distinct : labels.Nodup
  params_distinct : (paramsOf labels).Nodup

theorem LabelsFit.left {a b : List String} (h : LabelsFit (a ++ b)) : LabelsFit a where
  spelled := fun label hl => h.spelled label (List.mem_append_left b hl)
  distinct := h.distinct.of_append_left
  params_distinct := (paramsOf_append a b ▸ h.params_distinct).of_append_left

/-- One label breaks nothing exactly if it fits behind those before it. A repeated label is
reported at its second place; that later ones are not does no harm, since then the labels
before them do not fit already. -/
theorem labelsFit_concat {earlier : List String} {label : String} (h : LabelsFit earlier) :
    LabelsFit (earlier ++ [label]) ↔
      LabelShape label ∧ label ∉ earlier ∧
        Rust.Ident.param label earlier.length ∉ paramsOf earlier := by
  constructor
  · intro hfit
    have hlabels := hfit.distinct
    have hparams := hfit.params_distinct
    rw [List.nodup_append_comm] at hlabels
    rw [paramsOf_concat, List.nodup_append_comm] at hparams
    exact ⟨hfit.spelled label (by simp), (List.nodup_cons.1 hlabels).1,
      (List.nodup_cons.1 hparams).1⟩
  · rintro ⟨hshape, hnew, hparam⟩
    refine ⟨?_, ?_, ?_⟩
    · intro l hl
      rcases List.mem_append.1 hl with hl | hl
      · exact h.spelled l hl
      · rw [List.mem_singleton.1 hl]; exact hshape
    · rw [List.nodup_append_comm]
      exact List.nodup_cons.2 ⟨hnew, h.distinct⟩
    · rw [paramsOf_concat, List.nodup_append_comm]
      exact List.nodup_cons.2 ⟨hparam, h.params_distinct⟩

theorem labelBreaches_eq_nil {metric label : String} {earlier : List String}
    (h : LabelsFit earlier) :
    labelBreaches metric earlier label = [] ↔ LabelsFit (earlier ++ [label]) := by
  have hcount := List.nodup_iff_count_le_one.1 h.distinct label
  have hrepeated :
      (if earlier.count label = 1 then [Breach.duplicateLabel metric label] else []) = [] ↔
        label ∉ earlier := by
    rw [← List.count_eq_zero]
    split
    · simp; omega
    · simp; omega
  rw [labelsFit_concat h, ← isLabel_iff, ← claimant?_eq_none]
  unfold labelBreaches
  dsimp only
  rw [List.append_eq_nil_iff, List.append_eq_nil_iff, hrepeated, and_assoc]
  refine and_congr ?spelling (and_congr_right fun hnew => ?clash)
  case spelling =>
    split
    · next hshape => simp [hshape]
    · next hshape => simp [hshape]
  case clash =>
    cases hclaim : claimant? (Rust.Ident.param label earlier.length) earlier with
    | none => simp
    | some first =>
      have hne : first ≠ label := fun he => hnew (he ▸ claimant?_mem hclaim)
      simp [hne]

theorem labelsBreaches_eq_nil {metric : String} {earlier rest : List String}
    (h : LabelsFit earlier) :
    labelsBreaches metric earlier rest = [] ↔ LabelsFit (earlier ++ rest) := by
  induction rest generalizing earlier with
  | nil => simpa [labelsBreaches] using h
  | cons label rest ih =>
    rw [labelsBreaches, List.append_eq_nil_iff, labelBreaches_eq_nil h,
      show earlier ++ label :: rest = (earlier ++ [label]) ++ rest by simp]
    constructor
    · rintro ⟨hfit, hrest⟩
      exact (ih hfit).1 hrest
    · intro hfit
      exact ⟨hfit.left, (ih hfit.left).2 hfit⟩

theorem illegalLabels_eq_nil : illegalLabels ds = [] ↔ ∀ d ∈ ds, LabelsFit d.resolvedLabels := by
  unfold illegalLabels
  rw [List.flatMap_eq_nil_iff]
  refine forall₂_congr fun d _ => ?_
  rw [illegalLabelsOf, List.map_eq_nil_iff]
  exact labelsBreaches_eq_nil ⟨by simp, List.nodup_nil, List.nodup_nil⟩

/-! ## Buckets -/

/-- The annotations of a metric can all be applied, and can be built with. -/
structure BucketsFit (d : Declaration) : Prop where
  only_histograms : d.kind ≠ .histogram → d.ownBuckets = []
  at_most_one : d.kind = .histogram → d.ownBuckets.length ≤ 1
  sound : ∀ spec ∈ d.resolvedBuckets, spec.Sound

theorem bucketFault?_eq_none {d : Declaration} :
    bucketFault? d = none ↔ ∀ spec ∈ d.resolvedBuckets, spec.Sound := by
  unfold bucketFault?
  cases d.resolvedBuckets with
  | none => simp
  | some spec => simpa using Bucket.Spec.fault?_eq_none_iff

theorem bucketConflict?_eq_none {d : Declaration} :
    bucketConflict? d = none ↔
      (d.kind ≠ .histogram → d.ownBuckets = []) ∧
        (d.kind = .histogram → d.ownBuckets.length ≤ 1) := by
  have hlength : (annotationKinds d).length = d.ownBuckets.length := by
    simp [annotationKinds]
  unfold bucketConflict?
  by_cases hkind : d.kind = .histogram
  · simp [hkind, hlength]
  · have hempty : (annotationKinds d).isEmpty ↔ d.ownBuckets = [] := by
      rw [List.isEmpty_iff_length_eq_zero, hlength, List.length_eq_zero_iff]
    simp [hkind, ← hempty]

theorem illegalBuckets_eq_nil {policy : BucketPolicy} :
    illegalBuckets policy ds = [] ↔ ∀ d ∈ ds, bucketBreach? policy d = none := by
  unfold illegalBuckets
  rw [List.flatMap_eq_nil_iff]
  refine forall₂_congr fun d _ => ?_
  cases bucketBreach? policy d with
  | none => simp
  | some breach => simp

theorem illegalBuckets_strict_eq_nil :
    illegalBuckets .strict ds = [] ↔ ∀ d ∈ ds, BucketsFit d := by
  rw [illegalBuckets_eq_nil]
  refine forall₂_congr fun d _ => ?_
  have hfit : BucketsFit d ↔ bucketConflict? d = none ∧ bucketFault? d = none := by
    rw [bucketConflict?_eq_none, bucketFault?_eq_none]
    exact ⟨fun h => ⟨⟨h.1, h.2⟩, h.3⟩, fun h => ⟨h.1.1, h.1.2, h.2⟩⟩
  rw [hfit]
  cases hconflict : bucketConflict? d with
  | none => simp [bucketBreach?, hconflict]
  | some conflict => simp [bucketBreach?, hconflict]

theorem fault_of_illegalBuckets {policy : BucketPolicy} (h : illegalBuckets policy ds = []) :
    ∀ d ∈ ds, ∀ spec ∈ d.resolvedBuckets, spec.Sound := by
  intro d hd
  have hbreach := illegalBuckets_eq_nil.1 h d hd
  unfold bucketBreach? at hbreach
  split at hbreach
  · cases hbreach
  · exact bucketFault?_eq_none.1 (Option.map_eq_none_iff.1 hbreach)

end MetricFacade.Check
