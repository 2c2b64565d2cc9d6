import MetricFacade.Catalog
import MetricFacade.Proofs.Check.AcrossMetrics
import MetricFacade.Proofs.Check.PerMetric

/-!
# Which sets of declarations compile

Results:

* `nameable_iff`: the checks on names, labels, identifiers, members and modules together.
* `compile_ok`: what is known of a set that compiles, under either policy.
* `compile_strict_iff`: the strict policy takes exactly the well-formed sets.
-/
namespace MetricFacade

open Check MetricFacade.Metric

/-- All that is to be generated for the declarations can be named, and told apart. -/
structure Nameable (ds : List Declaration) : Prop where
  /-- Every resolved name is not empty and made of word characters. -/
  names : ∀ d ∈ ds, NameShape d.resolvedName
  /-- No two declarations share a resolved name, whatever their namespaces. -/
  names_distinct : (ds.map (·.resolvedName)).Nodup
  /-- In every metric the canonical labels are labels and distinct, and so are the accessor
  parameters they become. -/
  labels : ∀ d ∈ ds, LabelsFit d.resolvedLabels
  /-- Every source identifier and every segment of a namespace is an identifier. -/
  identifiers : ∀ d ∈ ds, IdentifiersFit d
  /-- In one namespace the accessors are distinct and none is a constructor of the facade. -/
  accessors : MembersFit accessorName ds
  /-- And so are the fields. -/
  fields : MembersFit fieldName ds
  /-- No segment names a type, and different segments under one parent stay different. -/
  modules : ModulesFit ds

/-- Nameable, and with bucket annotations that can all be applied. -/
structure WellFormed (ds : List Declaration) : Prop extends Nameable ds where
  buckets : ∀ d ∈ ds, BucketsFit d

variable {ds : List Declaration} {policy : BucketPolicy}

/-- Spelling is checked beside the modules, so the checks are equivalent to the rules
together and not one by one. -/
theorem nameable_iff :
    (illegalNames ds = [] ∧ duplicateNames ds = [] ∧ illegalLabels ds = [] ∧
      illegalIdentifiers ds = [] ∧ duplicateMembers ds = [] ∧
      duplicateModules ds = [] ∧ reservedModuleNames ds = []) ↔ Nameable ds := by
  rw [illegalNames_eq_nil, duplicateNames_eq_nil, illegalLabels_eq_nil,
    illegalIdentifiers_eq_nil, duplicateMembers_eq_nil]
  constructor
  · rintro ⟨hnames, hdistinct, hlabels, hident, ⟨haccessors, hfields⟩, hmodules⟩
    exact ⟨hnames, hdistinct, hlabels, hident, haccessors, hfields,
      (modules_eq_nil hident).1 hmodules⟩
  · intro h
    exact ⟨h.names, h.names_distinct, h.labels, h.identifiers, ⟨h.accessors, h.fields⟩,
      (modules_eq_nil h.identifiers).2 h.modules⟩

theorem violations_eq_nil :
    violations policy ds = [] ↔ Nameable ds ∧ illegalBuckets policy ds = [] := by
  rw [← nameable_iff, violations]
  simp only [List.append_eq_nil_iff, and_assoc]

theorem compile_eq_ok_iff {fs : List Facade} :
    compile policy ds = .ok fs ↔ violations policy ds = [] ∧ fs = facades ds := by
  unfold compile
  cases violations policy ds with
  | nil => simp [eq_comm]
  | cons v vs => simp

/-- Whatever compiles is nameable, and its histograms resolve to sound specifications. -/
theorem compile_ok {fs : List Facade} (h : compile policy ds = .ok fs) :
    fs = facades ds ∧ Nameable ds ∧ ∀ d ∈ ds, ∀ spec ∈ d.resolvedBuckets, spec.Sound := by
  obtain ⟨hnone, hfacades⟩ := compile_eq_ok_iff.1 h
  obtain ⟨hnameable, hbuckets⟩ := violations_eq_nil.1 hnone
  exact ⟨hfacades, hnameable, fault_of_illegalBuckets hbuckets⟩

theorem violations_strict_eq_nil : violations .strict ds = [] ↔ WellFormed ds := by
  rw [violations_eq_nil, illegalBuckets_strict_eq_nil]
  exact ⟨fun h => ⟨h.1, h.2⟩, fun h => ⟨h.toNameable, h.buckets⟩⟩

/-- **Exactly the well-formed sets compile** under the strict policy, and every other set is
answered with at least one violation. -/
theorem compile_strict_iff (ds : List Declaration) :
    ((∃ fs, compile .strict ds = .ok fs) ↔ WellFormed ds) ∧
      ((∃ v vs, compile .strict ds = .error (v :: vs)) ↔ ¬ WellFormed ds) := by
  rw [← violations_strict_eq_nil, compile]
  cases violations .strict ds with
  | nil => simp
  | cons v vs => simp

end MetricFacade
