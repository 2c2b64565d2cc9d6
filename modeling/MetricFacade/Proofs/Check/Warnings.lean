import MetricFacade.Proofs.Rules

/-!
# What is ignored under one policy and refused under the other

Bucket annotations that cannot all be applied are refused under the strict policy and put right,
with a warning, under the lenient one. Either way it is decided from the annotations of the one
metric which they are: a counter or a gauge can have none, a histogram one. The strict policy lists
the kinds of the annotations sorted, the lenient one applies the annotation of the best rank; the
first of the sorted kinds is the kind of that annotation, however many there are and in whatever
order.

Results:

* `isSome_bucketConflict?`: which metrics have annotations too many.
* `head?_annotationKinds`: sorting finds the kind that resolving chooses.
* `warn_compileLog`: the warnings in the log of a run.
* `warnings_agree`: the warnings of one policy beside the errors of the other.
-/
namespace MetricFacade

open Check MetricFacade.Metric

variable {ds : List Declaration}

/-- More annotations ask for something than a metric of this kind can have. -/
def overannotated (d : Declaration) : Bool :=
  (if d.kind = .histogram then 1 else 0) < d.ownBuckets.length

theorem isSome_bucketConflict? (d : Declaration) :
    (bucketConflict? d).isSome = overannotated d := by
  have hnone := bucketConflict?_eq_none (d := d)
  rw [Bool.eq_iff_iff, ← not_iff_not, Bool.not_eq_true, Option.isSome_eq_false_iff,
    Option.isNone_iff_eq_none, hnone, overannotated, decide_eq_true_eq, not_lt]
  by_cases hkind : d.kind = .histogram
  · simp [hkind]
  · simp [hkind, List.length_eq_zero_iff]

/-! ## The kind that is applied -/

theorem rank_total (a b : Bucket.Kind) : a.le b ∨ b.le a := by
  simpa [Bucket.Kind.le] using Nat.le_total a.rank b.rank

theorem rank_trans (a b c : Bucket.Kind) (hab : a.le b) (hbc : b.le c) : a.le c := by
  simp only [Bucket.Kind.le, decide_eq_true_eq] at hab hbc ⊢
  exact Nat.le_trans hab hbc

/-- Inserting goes before the first element or leaves it the first. -/
theorem head?_insertBy {α : Type} {le : α → α → Bool} (a : α) (xs : List α) :
    (insertBy le a xs).head? =
      some (match xs.head? with
        | none => a
        | some b => if le a b then a else b) := by
  cases xs with
  | nil => rfl
  | cons b rest =>
    rw [insertBy, List.head?_cons]
    split
    · next h => simp [h]
    · next h => simp [h]

/-- The least kind and the least specification are looked for in the same way, from behind. -/
theorem head?_sorted_kinds (specs : List Bucket.Spec) :
    (sortBy Bucket.Kind.le (specs.map (·.kind))).head? =
      (Declaration.leastRanked specs).map (·.kind) := by
  induction specs with
  | nil => rfl
  | cons spec rest ih =>
    have hstep : sortBy Bucket.Kind.le ((spec :: rest).map (·.kind)) =
        insertBy Bucket.Kind.le spec.kind (sortBy Bucket.Kind.le (rest.map (·.kind))) := rfl
    rw [hstep, head?_insertBy, ih, Declaration.leastRanked]
    cases Declaration.leastRanked rest with
    | none => rfl
    | some best =>
      by_cases hrank : spec.kind.rank ≤ best.kind.rank
      · simp [Bucket.Kind.le, hrank]
      · simp [Bucket.Kind.le, hrank]

theorem head?_annotationKinds {d : Declaration} (hkind : d.kind = .histogram)
    {kind : Bucket.Kind} {kinds : List Bucket.Kind} (h : annotationKinds d = kind :: kinds) :
    ∃ spec, d.resolvedBuckets = some spec ∧ spec.kind = kind := by
  have hhead := head?_sorted_kinds d.ownBuckets
  rw [annotationKinds] at h
  rw [h, List.head?_cons, eq_comm, Option.map_eq_some_iff] at hhead
  obtain ⟨spec, hspec, hsame⟩ := hhead
  exact ⟨spec, by rw [Declaration.resolvedBuckets, if_pos hkind, hspec]; rfl, hsame⟩

/-! ## A warning beside an error -/

/-- What the lenient policy warns of and what the strict one reports, for one declaration. -/
inductive Agree (d : Declaration) : Log.Record → Violation → Prop where
  /-- No annotation of a counter or a gauge is applied. -/
  | ignored (hkind : d.kind ≠ .histogram) (hsome : d.ownBuckets ≠ []) :
    Agree d
      ⟨.warn, .validator, "Ignoring bucket annotations on " ++ d.kind.name ++ " '"
        ++ d.resolvedName ++ "' declared at " ++ d.site⟩
      ⟨.inconsistentBuckets d.resolvedName (.notAHistogram d.kind), [d.site]⟩
  /-- Of the annotations of a histogram the one that it resolves to is applied. All their kinds are
  listed by rank, and the kind of that one is the first. -/
  | several (hkind : d.kind = .histogram) {spec : Bucket.Spec} {others : List Bucket.Kind}
      (happlied : d.resolvedBuckets = some spec) (hothers : others ≠ [])
      (hkinds : (spec.kind :: others).Perm (d.ownBuckets.map (·.kind)))
      (hranked : (spec.kind :: others).Pairwise (·.le ·)) :
    Agree d
      ⟨.warn, .validator, "Histogram '" ++ d.resolvedName ++ "' declared at " ++ d.site
        ++ " has several bucket annotations, applying " ++ spec.kind.name⟩
      ⟨.inconsistentBuckets d.resolvedName (.multipleKinds (spec.kind :: others)), [d.site]⟩

theorem agree_of_conflict {d : Declaration} {conflict : BucketConflict}
    (h : bucketConflict? d = some conflict) :
    Agree d ⟨.warn, .validator, conflictWarning d conflict⟩
      ⟨.inconsistentBuckets d.resolvedName conflict, [d.site]⟩ := by
  have hperm : (annotationKinds d).Perm (d.ownBuckets.map (·.kind)) := sortBy_perm _
  unfold bucketConflict? at h
  dsimp only at h
  by_cases hkind : d.kind = .histogram
  · rw [if_pos hkind] at h
    split at h
    · next hmany =>
      cases h
      match hkinds : annotationKinds d with
      | [] | [_] => rw [hkinds] at hmany; simp at hmany
      | kind :: other :: others =>
        obtain ⟨spec, happlied, rfl⟩ := head?_annotationKinds hkind hkinds
        have hranked := sortBy_sorted rank_total rank_trans (d.ownBuckets.map (·.kind))
        rw [← annotationKinds, hkinds] at hranked
        rw [hkinds] at hperm
        exact .several hkind happlied (by simp) hperm hranked
    · cases h
  · rw [if_neg hkind] at h
    split at h
    · cases h
    · next hsome =>
      cases h
      refine .ignored hkind ?_
      intro hnone
      rw [hnone, List.map_nil] at hperm
      rw [hperm.eq_nil] at hsome
      exact hsome rfl

/-! ## The log and the report -/

/-- Of all that compiling logs, what the check of the buckets says are the warnings. -/
theorem warn_compileLog (policy : BucketPolicy) (ds : List Declaration)
    (result : Except (List Violation) (List Facade)) :
    (compileLog policy ds result).filter (·.level = .warn) =
      (bucketWarnings policy ds).map fun message => ⟨.warn, .validator, message⟩ := by
  have hwarnings : ∀ record ∈ (bucketWarnings policy ds).map
      fun message => (⟨.warn, .validator, message⟩ : Log.Record), record.level = .warn := by
    intro record hrecord
    obtain ⟨message, -, rfl⟩ := List.mem_map.1 hrecord
    rfl
  unfold compileLog
  dsimp only
  rw [List.cons_append, List.filter_cons_of_neg (by simp), List.filter_append,
    List.filter_eq_self.2 fun record hrecord => decide_eq_true (hwarnings record hrecord)]
  cases result with
  | ok fs => exact List.append_nil _
  | error vs => exact List.append_nil _

/-- Under the strict policy a conflict is all that is said of a metric's buckets. -/
theorem against_bucketBreach (d : Declaration) :
    against .inconsistentBuckets
        ((bucketBreach? .strict d).map fun breach => ⟨breach, [d.site]⟩).toList =
      ((bucketConflict? d).map fun conflict =>
        ⟨.inconsistentBuckets d.resolvedName conflict, [d.site]⟩).toList := by
  unfold bucketBreach?
  cases bucketConflict? d with
  | some conflict => rfl
  | none =>
    cases bucketFault? d with
    | none => rfl
    | some fault => rfl

theorem against_inconsistentBuckets_strict :
    against .inconsistentBuckets (reported .strict ds) =
      ds.filterMap fun d => (bucketConflict? d).map fun conflict =>
        ⟨.inconsistentBuckets d.resolvedName conflict, [d.site]⟩ := by
  rw [against_inconsistentBuckets, illegalBuckets, against, List.filter_flatMap,
    List.filterMap_eq_flatMap_toList]
  exact List.flatMap_congr fun d _ => against_bucketBreach d

theorem warn_lenient (result : Except (List Violation) (List Facade)) :
    (compileLog .lenient ds result).filter (·.level = .warn) =
      ds.filterMap fun d => (bucketConflict? d).map fun conflict =>
        ⟨.warn, .validator, conflictWarning d conflict⟩ := by
  rw [warn_compileLog, bucketWarnings, ← List.filterMap_eq_flatMap_toList, List.map_filterMap]
  simp only [Option.map_map, Function.comp_def]

/-- **The lenient policy warns of exactly what the strict one refuses.** The metrics with
annotations too many, in the order of their declarations, are those that the one warns of and those
that the other reports: for each there is one warning and one error, which agree on whether the
annotations do not fit the metric or are too many, and on the kind that is applied. It is the kind
of the specification that the histogram resolves to. -/
theorem warnings_agree (ds : List Declaration) :
    ∃ told : List (Declaration × Log.Record × Violation),
      told.map (·.1) = ds.filter overannotated ∧
      (compileLog .lenient ds (compile .lenient ds)).filter (·.level = .warn) =
        told.map (·.2.1) ∧
      against .inconsistentBuckets (reported .strict ds) = told.map (·.2.2) ∧
      ∀ t ∈ told, Agree t.1 t.2.1 t.2.2 := by
  refine ⟨ds.filterMap fun d => (bucketConflict? d).map fun conflict =>
    (d, ⟨.warn, .validator, conflictWarning d conflict⟩,
      ⟨.inconsistentBuckets d.resolvedName conflict, [d.site]⟩), ?declarations, ?warnings, ?errors,
    ?agree⟩
  case declarations =>
    rw [List.map_filterMap, ← List.filterMap_eq_filter]
    refine List.filterMap_congr fun d _ => ?_
    rw [Option.map_map, Option.guard, ← isSome_bucketConflict?]
    cases bucketConflict? d with
    | none => rfl
    | some conflict => rfl
  case warnings =>
    rw [warn_lenient, List.map_filterMap]
    simp only [Option.map_map, Function.comp_def]
  case errors =>
    rw [against_inconsistentBuckets_strict, List.map_filterMap]
    simp only [Option.map_map, Function.comp_def]
  case agree =>
    intro t ht
    obtain ⟨d, -, hd⟩ := List.mem_filterMap.1 ht
    obtain ⟨conflict, hconflict, rfl⟩ := Option.map_eq_some_iff.1 hd
    exact agree_of_conflict hconflict

/-- Given as linear and as explicit buckets, a histogram gets the explicit ones. -/
example : bucketWarnings .lenient
    [⟨"a", "Hits", .histogram, none, "", [], [.linear 0 1 2, .explicit [1]]⟩] =
    ["Histogram 'Hits' declared at a::Hits has several bucket annotations, applying explicit"] := by
  decide +kernel

end MetricFacade
