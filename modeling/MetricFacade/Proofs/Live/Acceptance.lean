import MetricFacade.Proofs.Catalog
import MetricFacade.Proofs.Live.Instrument
import MetricFacade.Proofs.Text.SnakeCase
import MetricFacade.Proofs.WellFormed

/-!
# What a client library takes of a compiled metric

The checks on declarations and the checks of the client library are written apart. A name may
start with a digit for the former and not for the latter, and the former know nothing of the
label that a histogram keeps for its bounds. In all else a metric that compiles is one that
can be built.

Results:

* `metricNameShape_iff`: a name that passes the checks is one for the client library unless it
  starts with a digit.
* `compiled_options_iff`: a compiled metric has legal options unless its name starts with a
  digit.
* `compiled_labels_iff`: it has legal labels unless it is a histogram with the label `le`.
-/
namespace MetricFacade.Live

open Check Registry MetricFacade.Metric

/-! ## Names and labels that pass the checks -/

/-- The first character is a digit. -/
def StartsWithDigit (s : String) : Prop :=
  ∃ c ∈ s.toList.head?, c.isDigit

instance (s : String) : Decidable (StartsWithDigit s) :=
  inferInstanceAs (Decidable (∃ c ∈ s.toList.head?, c.isDigit))

theorem WordShape.not_startsWithDigit {s : String} (h : WordShape s) : ¬ StartsWithDigit s := by
  obtain ⟨c, rest, hs, hc, -⟩ := h
  rintro ⟨d, hd, hdigit⟩
  rw [hs, List.head?_cons, Option.mem_some_iff] at hd
  subst hd
  rcases hc with hc | rfl
  · exact Text.not_isDigit_of_isAlpha hc hdigit
  · exact absurd hdigit (by decide)

/-- The first character is all that the two rules for names differ in. -/
theorem metricNameShape_iff {s : String} (h : NameShape s) :
    MetricNameShape s ↔ ¬ StartsWithDigit s := by
  obtain ⟨hne, hchars⟩ := h
  cases hs : s.toList with
  | nil => exact absurd (String.toList_eq_nil_iff.1 hs) hne
  | cons c rest =>
    rw [hs] at hchars
    have hdigit : StartsWithDigit s ↔ c.isDigit := by simp [StartsWithDigit, hs]
    rw [hdigit]
    constructor
    · rintro ⟨d, _, hd, hfirst, -⟩
      rw [hs] at hd
      cases hd
      rcases hfirst with hc | rfl | rfl
      · exact Text.not_isDigit_of_isAlpha hc
      · decide
      · decide
    · intro hc
      refine ⟨c, rest, hs, ?_, fun d hd => .inl (hchars d (List.mem_cons_of_mem c hd))⟩
      have hword : (c.isAlpha ∨ c.isDigit) ∨ c = '_' := by
        simpa [isWordChar, Char.isAlphanum] using hchars c List.mem_cons_self
      rcases hword with (halpha | hdig) | hunder
      · exact .inl halpha
      · exact absurd hdig hc
      · exact .inr (.inl hunder)

/-- A raw text that comes out without a `_` lost only the blanks around it. -/
theorem canonicalize_eq_iff {raw name : String} (hunder : '_' ∉ name.toList)
    (hspace : ' ' ∉ name.toList) :
    canonicalize raw = name ↔ Text.trim raw.toList = name.toList := by
  have hsame : ∀ cs : List Char, ' ' ∉ cs → cs.map (fun c => if c = ' ' then '_' else c) = cs := by
    intro cs hcs
    calc cs.map (fun c => if c = ' ' then '_' else c)
        = cs.map id := List.map_congr_left fun c hc => if_neg (by rintro rfl; exact hcs hc)
      _ = cs := List.map_id cs
  rw [canonicalize, ← String.toList_inj, String.toList_ofList]
  generalize Text.trim raw.toList = cs
  constructor
  · intro heq
    have hclear : ' ' ∉ cs := by
      intro hin
      have hwritten := List.mem_map_of_mem (f := fun c => if c = ' ' then '_' else c) hin
      rw [heq] at hwritten
      exact hunder hwritten
    rwa [hsame cs hclear] at heq
  · rintro rfl
    exact hsame _ hspace

/-- A raw label that comes out as `le` is `le` between blanks. -/
theorem canonicalize_eq_le {raw : String} :
    canonicalize raw = "le" ↔ Text.trim raw.toList = ['l', 'e'] :=
  canonicalize_eq_iff (by decide) (by decide)

theorem le_mem_resolvedLabels {d : Declaration} :
    "le" ∈ d.resolvedLabels ↔ ∃ raw ∈ d.labels, Text.trim raw.toList = ['l', 'e'] := by
  simp only [Declaration.resolvedLabels, List.mem_map, canonicalize_eq_le]

/-! ## Building what compiled -/

/-- The resolved form of a declaration is among the metrics of its namespace. -/
theorem exists_facade_of_mem {ds : List Declaration} {d : Declaration} (hd : d ∈ ds) :
    ∃ f ∈ facades ds, f.scope = d.scope ∧ d.resolve ∈ f.metrics := by
  refine ⟨⟨d.scope, (declaredIn ds d.scope).map (·.resolve)⟩,
    mem_facades.2 ⟨⟨d, hd, rfl⟩, rfl⟩, rfl, ?_⟩
  exact List.mem_map_of_mem (List.mem_filter.2 ⟨hd, by simp⟩)

theorem help_resolve_ne_empty (d : Declaration) : d.resolve.help ≠ "" := by
  change (if Text.isAllBlank d.help then defaultHelp else d.help) ≠ ""
  split
  · decide
  · rename_i hblank
    intro hempty
    rw [hempty] at hblank
    exact hblank (by decide)

variable {policy : BucketPolicy} {ds : List Declaration} {fs : List Facade}

/-- **Options of compiled metrics.** Every declaration of a set that compiles is a metric of
the facade of its namespace, and it has a help text. Its name is one for the client library
unless it starts with a digit, which takes a name of the declaration's own; where it does, the
instrument cannot be built. -/
theorem compiled_options_iff (h : compile policy ds = .ok fs) : ∀ d ∈ ds,
    (∃ f ∈ fs, f.scope = d.scope ∧ d.resolve ∈ f.metrics) ∧
      d.resolve.help ≠ "" ∧
      (OptionsAccepted (Instrument.ofMetric d.resolve).descriptor ↔
        ¬ StartsWithDigit d.resolvedName) ∧
      (d.name = none ∨ d.name = some "" → ¬ StartsWithDigit d.resolvedName) ∧
      (StartsWithDigit d.resolvedName → (Instrument.ofMetric d.resolve).refusal? =
        some (.illegalDescriptor d.resolvedName)) := by
  obtain ⟨rfl, hnameable, hsound⟩ := compile_ok h
  intro d hd
  have hname := metricNameShape_iff (hnameable.names d hd)
  have hhelp := help_resolve_ne_empty d
  have hdescriptor : (Instrument.ofMetric d.resolve).descriptor =
      ⟨d.resolvedName, d.resolve.help, d.resolvedLabels, []⟩ := by
    rw [Instrument.descriptor, metric_ofMetric]
    rfl
  have haccepted : OptionsAccepted (Instrument.ofMetric d.resolve).descriptor ↔
      ¬ StartsWithDigit d.resolvedName := by
    rw [← hname, hdescriptor]
    exact ⟨fun h => h.name, fun h => ⟨h, hhelp⟩⟩
  refine ⟨exists_facade_of_mem hd, hhelp, haccepted, ?_, ?_⟩
  · intro hown
    have hident : d.resolvedName = d.ident := by
      unfold Declaration.resolvedName
      rcases hown with hown | hown <;> rw [hown]
      rfl
    rw [hident]
    exact WordShape.not_startsWithDigit (hnameable.identifiers d hd).1.word
  · intro hdigit
    have hrefused := (refusal?_eq_illegalDescriptor (i := .ofMetric d.resolve)
      (by rw [metric_ofMetric]; exact hsound d hd)).2 fun h => haccepted.1 h.1 hdigit
    rwa [metric_ofMetric] at hrefused

/-- A name that starts with a digit, and one that is the identifier. -/
def livesSample : List Declaration :=
  [⟨"cats", "Lives", .counter, some " 9 lives", "", [], []⟩,
   ⟨"cats::house", "Naps", .gauge, none, "Naps", ["room"], []⟩]

theorem compile_livesSample (policy : BucketPolicy) :
    compile policy livesSample = .ok (facades livesSample) :=
  compile_eq_ok_iff.2 ⟨by cases policy <;> decide +kernel, rfl⟩

theorem livesSample_options :
    compile .lenient livesSample = .ok (facades livesSample) ∧
      ∀ d ∈ livesSample, OptionsAccepted (Instrument.ofMetric d.resolve).descriptor ↔
        ¬ StartsWithDigit d.resolvedName := by
  have hcompile := compile_livesSample .lenient
  exact ⟨hcompile, fun d hd => (compiled_options_iff hcompile d hd).2.2.1⟩

/-- A set may compile and yet have a metric whose options the client library does not take. -/
theorem not_all_compiled_options_accepted :
    ¬ ∀ policy ds fs, compile policy ds = .ok fs →
      ∀ d ∈ ds, OptionsAccepted (Instrument.ofMetric d.resolve).descriptor := by
  intro hall
  have haccepted := hall _ _ _ (compile_livesSample .strict) _ List.mem_cons_self
  exact absurd (hasLegalOptions_iff.2 haccepted) (by decide +kernel)

/-- **Labels of compiled metrics.** Every declaration of a set that compiles is a metric of
the facade of its namespace, and its labels are words, none of them twice. The client library
takes them unless the metric is a histogram with the label `le`, which any raw label gives that
is `le` between blanks; where it is, the instrument cannot be built. -/
theorem compiled_labels_iff (h : compile policy ds = .ok fs) : ∀ d ∈ ds,
    (∃ f ∈ fs, f.scope = d.scope ∧ d.resolve ∈ f.metrics) ∧
      (∀ label ∈ d.resolvedLabels, WordShape label) ∧ d.resolvedLabels.Nodup ∧
      (LabelsAccepted d.kind d.resolvedLabels ↔
        ¬ (d.kind = .histogram ∧ "le" ∈ d.resolvedLabels)) ∧
      ("le" ∈ d.resolvedLabels ↔ ∃ raw ∈ d.labels, Text.trim raw.toList = ['l', 'e']) ∧
      (d.kind = .histogram → "le" ∈ d.resolvedLabels →
        (Instrument.ofMetric d.resolve).refusal? = some (.illegalDescriptor d.resolvedName)) := by
  obtain ⟨rfl, hnameable, hsound⟩ := compile_ok h
  intro d hd
  obtain ⟨hspelled, hdistinct, -⟩ := hnameable.labels d hd
  have hwords : ∀ label ∈ d.resolvedLabels, WordShape label := fun l hl => (hspelled l hl).1
  have haccepted : LabelsAccepted d.kind d.resolvedLabels ↔
      ¬ (d.kind = .histogram ∧ "le" ∈ d.resolvedLabels) :=
    ⟨fun h hle => h.not_bound hle.1 hle.2,
      fun h => ⟨hwords, hdistinct, fun hkind hle => h ⟨hkind, hle⟩⟩⟩
  refine ⟨exists_facade_of_mem hd, hwords, hdistinct, haccepted, le_mem_resolvedLabels, ?_⟩
  intro hkind hle
  have hrefused := (refusal?_eq_illegalDescriptor (i := .ofMetric d.resolve)
    (by rw [metric_ofMetric]; exact hsound d hd)).2
    (by rw [metric_ofMetric]; exact fun h => haccepted.1 h.2 ⟨hkind, hle⟩)
  rwa [metric_ofMetric] at hrefused

/-- Latencies by route, with a label that the library has its own use for. -/
def routeSample : List Declaration :=
  [⟨"http", "Latency", .histogram, none, "", ["route", " le "], [.explicit [0.5, 1]]⟩,
   ⟨"http", "Requests", .counter, none, "", ["route", "le"], []⟩]

theorem compile_routeSample (policy : BucketPolicy) :
    compile policy routeSample = .ok (facades routeSample) :=
  compile_eq_ok_iff.2 ⟨by cases policy <;> decide +kernel, rfl⟩

theorem routeSample_labels :
    compile .strict routeSample = .ok (facades routeSample) ∧
      ∀ d ∈ routeSample, LabelsAccepted d.kind d.resolvedLabels ↔
        ¬ (d.kind = .histogram ∧ "le" ∈ d.resolvedLabels) := by
  have hcompile := compile_routeSample .strict
  exact ⟨hcompile, fun d hd => (compiled_labels_iff hcompile d hd).2.2.2.1⟩

/-- A set may compile and yet have a histogram whose labels the client library does not take. -/
theorem not_all_compiled_labels_accepted :
    ¬ ∀ policy ds fs, compile policy ds = .ok fs →
      ∀ d ∈ ds, LabelsAccepted d.kind d.resolvedLabels := by
  intro hall
  have haccepted := hall _ _ _ (compile_routeSample .strict) _ List.mem_cons_self
  exact haccepted.not_bound rfl (by decide +kernel)

end MetricFacade.Live
