import MetricFacade.Live.Instrument
import MetricFacade.Proofs.Bucket.Fault
import MetricFacade.Proofs.Check.Spelling

/-!
# Instruments that can be built

A client library builds an instrument if it takes the options, the labels and the buckets of
its metric. With sound buckets the first two alone decide it. Whatever is done with an
instrument afterwards, its metric stays the same.

Results:

* `hasLegalOptions_iff`, `acceptsLabels_iff`: the rules of the client library as shapes.
* `refusal?_eq_illegalDescriptor`: when the descriptor of an instrument is at fault.
* `metric_perform`: an action leaves the metric alone.
-/
namespace MetricFacade.Live

open Check Registry MetricFacade.Metric

/-! ## The rules as shapes -/

/-- `[a-zA-Z_:][a-zA-Z0-9_:]*` -/
def MetricNameShape (s : String) : Prop :=
  ∃ c rest, s.toList = c :: rest ∧ (c.isAlpha ∨ c = '_' ∨ c = ':') ∧
    ∀ d ∈ rest, isWordChar d ∨ d = ':'

/-- The name and the help text are those of a metric. -/
structure OptionsAccepted (d : Descriptor) : Prop where
  name : MetricNameShape d.name
  help : d.help ≠ ""

/-- The labels are those of a metric of this kind. -/
structure LabelsAccepted (kind : Kind) (labels : List String) : Prop where
  spelled : ∀ label ∈ labels, WordShape label
  distinct : labels.Nodup
  not_bound : kind = .histogram → "le" ∉ labels

theorem isMetricName_iff {s : String} : Descriptor.isMetricName s ↔ MetricNameShape s := by
  have hfirst : ∀ c : Char, ((if c = ':' then '_' else c).isAlpha ∨
      (if c = ':' then '_' else c) = '_') ↔ c.isAlpha ∨ c = '_' ∨ c = ':' := by
    intro c
    by_cases hc : c = ':'
    · simp [hc]
    · simp [hc]
  have hnext : ∀ c : Char, isWordChar (if c = ':' then '_' else c) ↔ isWordChar c ∨ c = ':' := by
    intro c
    by_cases hc : c = ':'
    · simp [hc, isWordChar]
    · simp [hc]
  rw [Descriptor.isMetricName, isWord_iff, WordShape, String.toList_map]
  constructor
  · rintro ⟨_, _, hs, hc, hrest⟩
    obtain ⟨c, rest, hlist, rfl, rfl⟩ := List.map_eq_cons_iff.1 hs
    refine ⟨c, rest, hlist, (hfirst c).1 hc, ?_⟩
    intro d hd
    exact (hnext d).1 (hrest _ (List.mem_map_of_mem hd))
  · rintro ⟨c, rest, hs, hc, hrest⟩
    refine ⟨_, _, by rw [hs, List.map_cons], (hfirst c).2 hc, ?_⟩
    intro d hd
    obtain ⟨e, he, rfl⟩ := List.mem_map.1 hd
    exact (hnext e).2 (hrest e he)

theorem hasLegalOptions_iff {d : Descriptor} : d.hasLegalOptions ↔ OptionsAccepted d := by
  have hhelp : (!d.help.isEmpty) = true ↔ d.help ≠ "" := by simp
  rw [Descriptor.hasLegalOptions, Bool.and_eq_true, isMetricName_iff, hhelp]
  exact ⟨fun h => ⟨h.1, h.2⟩, fun h => ⟨h.name, h.help⟩⟩

theorem acceptsLabels_iff {kind : Kind} {labels : List String} :
    Instrument.acceptsLabels kind labels ↔ LabelsAccepted kind labels := by
  have hbound : (!(decide (kind = .histogram) && labels.contains Instrument.boundLabel)) = true ↔
      (kind = .histogram → "le" ∉ labels) := by
    simp [Instrument.boundLabel, imp_iff_not_or]
  rw [Instrument.acceptsLabels, Bool.and_eq_true, hbound, Descriptor.areLabels, Bool.and_eq_true,
    List.all_eq_true, decide_eq_true_eq]
  simp only [isWord_iff]
  exact ⟨fun h => ⟨h.1.1, h.1.2, h.2⟩, fun h => ⟨⟨h.spelled, h.distinct⟩, h.not_bound⟩⟩

/-! ## Refusals -/

theorem refusesLadder_of_sound {spec : Bucket.Spec} (h : spec.Sound) : refusesLadder spec = false := by
  cases spec with
  | explicit values => rfl
  | standard => rfl
  | exponential start factor count =>
    obtain ⟨⟨hcount, -⟩, ⟨hstart, hpos⟩, ⟨hfactor, habove⟩, -⟩ := h
    have hs := (Number.not_le_iff Bucket.finite_zero hstart).2 hpos
    have hf := (Number.not_le_iff Bucket.finite_one hfactor).2 habove
    have hc : count ≠ 0 := by omega
    simp [refusesLadder, hs, hf, hc]
  | linear start width count =>
    obtain ⟨⟨hcount, -⟩, -, ⟨hwidth, hpos⟩, -⟩ := h
    have hw := (Number.not_le_iff Bucket.finite_zero hwidth).2 hpos
    have hc : count ≠ 0 := by omega
    simp [refusesLadder, hw, hc]

/-- An instrument with sound buckets has a descriptor at fault exactly if the library does not
take its options or its labels. -/
theorem refusal?_eq_illegalDescriptor {i : Instrument}
    (h : ∀ spec ∈ i.metric.buckets, spec.Sound) :
    i.refusal? = some (.illegalDescriptor i.metric.name) ↔
      ¬ (OptionsAccepted i.descriptor ∧ LabelsAccepted i.metric.kind i.metric.labels) := by
  have hladder : ¬ i.metric.buckets.any refusesLadder := by
    cases hb : i.metric.buckets with
    | none => simp
    | some spec => simp [refusesLadder_of_sound (h spec hb)]
  rw [← hasLegalOptions_iff, ← acceptsLabels_iff, Instrument.refusal?, if_neg hladder]
  cases i.descriptor.hasLegalOptions with
  | false => simp
  | true =>
    cases Instrument.acceptsLabels i.metric.kind i.metric.labels with
    | false => simp
    | true =>
      by_cases hdescends : (i.metric.labels.isEmpty && (Bucket.firstDescent i.bounds).isSome) = true
      · simp [hdescends]
      · simp [hdescends]

/-! ## The metric of an instrument -/

@[simp] theorem metric_ofMetric (m : Resolved) : (Instrument.ofMetric m).metric = m := by
  unfold Instrument.ofMetric
  split
  · rfl
  · rfl

theorem metric_reach (i : Instrument) (values : List String) : (i.reach values).metric = i.metric := by
  unfold Instrument.reach
  split
  · rfl
  · rfl

@[simp] theorem metric_perform (i : Instrument) (values : List String) (a : Action) :
    (i.perform values a).metric = i.metric :=
  metric_reach i values

end MetricFacade.Live
