import MetricFacade.Proofs.WellFormed

/-!
# The lenient policy is the strict one after a clean-up

A declaration is cleaned up by leaving only the bucket annotation that applies: none on a
counter or a gauge, on a histogram the first one of the best kind. The lenient policy gives what
the strict one gives for the cleaned declarations, facades and violations alike. The policy
decides in the check and the precedence is decided where buckets are resolved, each by itself;
here the two are brought together.

Results:

* `leastRanked_own`: resolving picks the first annotation of the best kind.
* `namingViolations_edit`: no other check looks at anything but names; bucket annotations and help
  texts, for two, do not count (`namingViolations_map`).
* `breach_clean`: the strict policy finds in a cleaned declaration what the lenient one finds.
* `compile_lenient`: the policies compared on whole sets.
-/
namespace MetricFacade

open Check MetricFacade.Metric

/-! ## Cleaning up -/

namespace Metric.Declaration

def firstOf? (kind : Bucket.Kind) (specs : List Bucket.Spec) : Option Bucket.Spec :=
  specs.find? fun spec => spec.kind = kind

/-- The first annotation of the best kind present. The standard ladder is no annotation. -/
def applying? (specs : List Bucket.Spec) : Option Bucket.Spec :=
  (firstOf? .explicit specs).or ((firstOf? .exponential specs).or (firstOf? .linear specs))

def withBuckets (d : Declaration) (specs : List Bucket.Spec) : Declaration :=
  { d with buckets := specs }

/-- Of the bucket annotations only what applies. -/
def clean (d : Declaration) : Declaration :=
  d.withBuckets (if d.kind = .histogram then (applying? d.buckets).toList else [])

theorem kind_of_firstOf? {kind : Bucket.Kind} {specs : List Bucket.Spec} {spec : Bucket.Spec}
    (h : firstOf? kind specs = some spec) : spec.kind = kind := by
  simpa using List.find?_some h

theorem firstOf?_cons (kind : Bucket.Kind) (spec : Bucket.Spec) (rest : List Bucket.Spec) :
    firstOf? kind (spec :: rest) = if spec.kind = kind then some spec else firstOf? kind rest := by
  by_cases h : spec.kind = kind <;> simp [firstOf?, h]

/-- One more annotation in front wins unless a better kind follows. -/
theorem applying?_cons {spec : Bucket.Spec} (hown : spec.kind ≠ .standard)
    (rest : List Bucket.Spec) :
    applying? (spec :: rest) = match applying? rest with
      | none => some spec
      | some best => if spec.kind.rank ≤ best.kind.rank then some spec else some best := by
  unfold applying?
  simp only [firstOf?_cons]
  -- The best kind in the rest decides, so the cases follow the order of precedence.
  cases hexplicit : firstOf? .explicit rest with
  | some best =>
    have hbest := kind_of_firstOf? hexplicit
    cases spec.kind <;> simp [hbest, Bucket.Kind.rank]
  | none =>
    cases hexponential : firstOf? .exponential rest with
    | some best =>
      have hbest := kind_of_firstOf? hexponential
      cases spec.kind <;> simp [hbest, Bucket.Kind.rank]
    | none =>
      cases hlinear : firstOf? .linear rest with
      | some best =>
        have hbest := kind_of_firstOf? hlinear
        cases spec.kind <;> simp [hbest, Bucket.Kind.rank]
      | none =>
        cases hspec : spec.kind with
        | standard => exact absurd hspec hown
        | explicit | exponential | linear => rfl

theorem applying?_standard {spec : Bucket.Spec} (h : spec.kind = .standard)
    (rest : List Bucket.Spec) : applying? (spec :: rest) = applying? rest := by
  simp [applying?, firstOf?_cons, h]

/-- Resolving looks for the least rank among the annotations that ask for something, which comes
to the first annotation of the best kind. -/
theorem leastRanked_own (specs : List Bucket.Spec) :
    leastRanked (specs.filter fun spec => spec.kind ≠ .standard) = applying? specs := by
  induction specs with
  | nil => rfl
  | cons spec rest ih =>
    by_cases hown : spec.kind = .standard
    · rw [List.filter_cons_of_neg (by simp [hown]), ih, applying?_standard hown]
    · have hfirst := applying?_cons hown rest
      rw [List.filter_cons_of_pos (by simp [hown]), leastRanked, ih]
      exact hfirst.symm

/-- An exponential annotation goes before a linear one, and of two such the first counts. -/
example : applying? [.linear 1 1 2, .standard, .exponential 1 2 3, .exponential 5 2 3] =
    some (.exponential 1 2 3) := by decide +kernel

theorem kind_applying? {specs : List Bucket.Spec} {spec : Bucket.Spec}
    (h : applying? specs = some spec) : spec.kind ≠ .standard := by
  unfold applying? at h
  rcases Option.or_eq_some_iff.1 h with h | ⟨-, h⟩
  · rw [kind_of_firstOf? h]; decide
  · rcases Option.or_eq_some_iff.1 h with h | ⟨-, h⟩
    · rw [kind_of_firstOf? h]; decide
    · rw [kind_of_firstOf? h]; decide

theorem ownBuckets_clean (d : Declaration) :
    d.clean.ownBuckets = if d.kind = .histogram then (applying? d.buckets).toList else [] := by
  unfold ownBuckets clean withBuckets
  rw [List.filter_eq_self]
  intro spec hspec
  split at hspec
  · simpa using kind_applying? (Option.mem_toList.1 hspec)
  · cases hspec

theorem resolvedBuckets_clean (d : Declaration) : d.clean.resolvedBuckets = d.resolvedBuckets := by
  have hkind : d.clean.kind = d.kind := rfl
  unfold resolvedBuckets
  rw [hkind, ownBuckets_clean]
  by_cases h : d.kind = .histogram
  · rw [if_pos h, if_pos h, if_pos h, ownBuckets, leastRanked_own]
    cases applying? d.buckets <;> rfl
  · rw [if_neg h, if_neg h]

theorem resolve_clean (d : Declaration) : d.clean.resolve = d.resolve := by
  have hbuckets := resolvedBuckets_clean d
  unfold resolve
  rw [hbuckets]
  rfl

end Metric.Declaration

/-! ## Everything but the buckets -/

section Naming

variable {ds : List Declaration}

/-- Both come to the same names, of whatever kind. -/
structure SameNaming (d e : Declaration) : Prop where
  name : e.resolvedName = d.resolvedName
  labels : e.resolvedLabels = d.resolvedLabels
  scope : e.scope = d.scope
  ident : e.ident = d.ident
  kind : e.kind = d.kind

theorem SameNaming.site {d e : Declaration} (h : SameNaming d e) : e.site = d.site := by
  rw [Declaration.site, h.scope, h.ident, Declaration.site]

/-- All violations but those of buckets. -/
def namingViolations (ds : List Declaration) : List Violation :=
  illegalNames ds ++ duplicateNames ds ++ illegalLabels ds ++ illegalIdentifiers ds
    ++ duplicateMembers ds ++ duplicateModules ds ++ reservedModuleNames ds

theorem violations_eq (policy : BucketPolicy) (ds : List Declaration) :
    violations policy ds = namingViolations ds ++ illegalBuckets policy ds := rfl

variable {edit : Declaration → Declaration} (h : ∀ d, SameNaming d (edit d))

include h

theorem duplicateNames_edit : duplicateNames (ds.map edit) = duplicateNames ds := by
  have hname : ∀ d, (edit d).resolvedName = d.resolvedName := fun d => (h d).name
  have hsite : ∀ d, (edit d).site = d.site := fun d => (h d).site
  unfold duplicateNames
  rw [groupBy_map, List.flatMap_map]
  simp only [List.length_map, List.map_map, Function.comp_def, hname, hsite]

theorem memberSites_edit {view : Declaration → Member} (hview : ∀ d, view (edit d) = view d) :
    memberSites view (ds.map edit) = memberSites view ds := by
  have hsite : ∀ d, (edit d).site = d.site := fun d => (h d).site
  unfold memberSites
  rw [groupBy_map, List.map_map]
  simp only [hview, hsite, List.map_map, Function.comp_def]

/-- No check but the one of buckets looks at anything else than what names are made of. -/
theorem namingViolations_edit : namingViolations (ds.map edit) = namingViolations ds := by
  have hname : ∀ d, illegalName (edit d) = illegalName d := fun d => by
    rw [illegalName, (h d).name, (h d).site, illegalName]
  have hlabels : ∀ d, illegalLabelsOf (edit d) = illegalLabelsOf d := fun d => by
    rw [illegalLabelsOf, (h d).name, (h d).labels, (h d).site, illegalLabelsOf]
  have huses : ∀ d, usesOf (edit d) = usesOf d := fun d => by
    rw [usesOf, (h d).scope, (h d).ident, (h d).site, usesOf]
  have hmembers : duplicateMembers (ds.map edit) = duplicateMembers ds := by
    unfold duplicateMembers
    rw [memberSites_edit h fun d => by rw [accessorOf, accessorOf, (h d).scope, (h d).ident],
      memberSites_edit h fun d => by rw [fieldOf, fieldOf, (h d).scope, (h d).ident, (h d).kind]]
  have hplaces : places (ds.map edit) = places ds := by
    have hmodules : ∀ d, moduleUsesOf (edit d) = moduleUsesOf d := fun d => by
      rw [moduleUsesOf, (h d).scope, (h d).site, moduleUsesOf]
    unfold places
    rw [List.flatMap_map]
    simp only [hmodules]
  unfold namingViolations illegalNames illegalLabels illegalIdentifiers duplicateModules
    reservedModuleNames
  rw [hmembers, hplaces, duplicateNames_edit h, List.flatMap_map, List.flatMap_map, List.flatMap_map]
  simp only [hname, hlabels, huses]

omit h in
/-- Whatever buckets and help texts the declarations are given, they keep their violations but
those of buckets. -/
theorem namingViolations_map (specs : Declaration → List Bucket.Spec)
    (help : Declaration → String) :
    namingViolations (ds.map fun d => { d with buckets := specs d, help := help d }) =
      namingViolations ds :=
  namingViolations_edit fun _ => ⟨rfl, rfl, rfl, rfl, rfl⟩

end Naming

/-! ## The buckets -/

theorem conflict_clean (d : Declaration) : bucketConflict? d.clean = none := by
  rw [bucketConflict?_eq_none, d.ownBuckets_clean]
  have hkind : d.clean.kind = d.kind := rfl
  rw [hkind]
  constructor
  · intro h
    rw [if_neg h]
  · intro h
    rw [if_pos h]
    exact Option.length_toList_le

theorem breach_clean (d : Declaration) :
    bucketBreach? .strict d.clean = bucketBreach? .lenient d := by
  have hfault : bucketFault? d.clean = bucketFault? d := by
    unfold bucketFault?
    rw [d.resolvedBuckets_clean]
  unfold bucketBreach?
  rw [conflict_clean, hfault]
  rfl

theorem illegalBuckets_clean (ds : List Declaration) :
    illegalBuckets .strict (ds.map (·.clean)) = illegalBuckets .lenient ds := by
  unfold illegalBuckets
  rw [List.flatMap_map]
  simp only [breach_clean]
  rfl

theorem breach_lenient {d : Declaration} (h : bucketBreach? .strict d = none) :
    bucketBreach? .lenient d = none := by
  unfold bucketBreach? at h ⊢
  cases hconflict : bucketConflict? d with
  | none => simpa [hconflict] using h
  | some conflict => simp [hconflict] at h

/-! ## Whole sets -/

theorem facades_clean (ds : List Declaration) : facades (ds.map (·.clean)) = facades ds := by
  unfold facades
  rw [List.map_map]
  simp only [Function.comp_def, Declaration.resolve_clean]

/-- **The lenient policy is the strict one after a clean-up**, with the same facades or the same
violations in the same order. So what the strict policy takes, the lenient one takes too, to the
same facades. -/
theorem compile_lenient (ds : List Declaration) :
    compile .lenient ds = compile .strict (ds.map (·.clean)) ∧
      ∀ fs, compile .strict ds = .ok fs → compile .lenient ds = .ok fs := by
  constructor
  · have hviolations : violations .lenient ds = violations .strict (ds.map (·.clean)) := by
      rw [violations_eq, violations_eq, illegalBuckets_clean]
      congr 1
      exact (namingViolations_map _ (·.help)).symm
    unfold compile
    rw [hviolations, facades_clean]
  · intro fs h
    obtain ⟨hnone, rfl⟩ := compile_eq_ok_iff.1 h
    obtain ⟨hnameable, hbuckets⟩ := violations_eq_nil.1 hnone
    rw [compile_eq_ok_iff, violations_eq_nil]
    refine ⟨⟨hnameable, ?_⟩, rfl⟩
    rw [illegalBuckets_eq_nil] at hbuckets ⊢
    intro d hd
    exact breach_lenient (hbuckets d hd)

end MetricFacade
