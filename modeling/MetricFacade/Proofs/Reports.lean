import MetricFacade.Proofs.WellFormed

/-!
# What is reported of a single metric

Some rules look at one metric by itself: at its name, at its labels, at its buckets. The checks
of these rules go through all declarations and never stop early, so what they report for a set is
what they report for its declarations one by one.

Results:

* `about_violations`: each of the three has one check that reports on it.
* `site_of_violation`: sites are sites of the declarations.
* `reported_apart`: what is reported for a set, and for its declarations alone.
-/
namespace MetricFacade

open Check MetricFacade.Metric

variable {policy : BucketPolicy} {ds : List Declaration}

/-- The violations that compiling answers with. -/
def reported (policy : BucketPolicy) (ds : List Declaration) : List Violation :=
  match compile policy ds with
  | .ok _ => []
  | .error vs => vs

theorem reported_eq_violations : reported policy ds = violations policy ds := by
  unfold reported compile
  cases violations policy ds with
  | nil => rfl
  | cons v vs => rfl

/-! ## Which check reports what -/

/-- What can be wrong with a metric whatever the other metrics are. -/
inductive Aspect where
  | name
  | labels
  | buckets
  deriving Repr, DecidableEq

/-- The aspect of a metric that a breach is about. The rules that compare metrics with each other
are about none. -/
def Breach.aspect? : Breach → Option Aspect
  | illegalName _ => some .name
  | illegalLabel _ _ | duplicateLabel _ _ => some .labels
  | inconsistentBuckets _ _ | invalidBuckets _ _ => some .buckets
  | duplicateName _ _ | illegalIdentifier _ | duplicateMember _ _ => none

def about (aspect : Aspect) (vs : List Violation) : List Violation :=
  vs.filter fun v => v.breach.aspect? = some aspect

/-- The check of an aspect on one metric. -/
def Aspect.check (policy : BucketPolicy) : Aspect → Declaration → List Violation
  | name => illegalName
  | labels => illegalLabelsOf
  | buckets => fun d => ((bucketBreach? policy d).map fun breach => ⟨breach, [d.site]⟩).toList

theorem about_append (aspect : Aspect) (vs ws : List Violation) :
    about aspect (vs ++ ws) = about aspect vs ++ about aspect ws :=
  List.filter_append vs ws

/-- Of a check that keeps to one aspect everything is about it. -/
theorem about_of_aspect {vs : List Violation} {aspect : Aspect} {kept : Option Aspect}
    (h : ∀ v ∈ vs, v.breach.aspect? = kept) :
    about aspect vs = if kept = some aspect then vs else [] := by
  unfold about
  split
  · next hkept =>
    rw [List.filter_eq_self]
    intro v hv
    rw [h v hv, hkept, decide_eq_true_eq]
  · next hother =>
    rw [List.filter_eq_nil_iff]
    intro v hv
    rw [h v hv, decide_eq_true_eq]
    exact hother

theorem aspect_labelsBreaches {metric : String} {earlier rest : List String} :
    ∀ breach ∈ labelsBreaches metric earlier rest, breach.aspect? = some .labels := by
  induction rest generalizing earlier with
  | nil => simp [labelsBreaches]
  | cons label rest ih =>
    intro breach hbreach
    rw [labelsBreaches, List.mem_append] at hbreach
    rcases hbreach with hhere | hrest
    · simp only [labelBreaches, List.mem_append] at hhere
      rcases hhere with (hspelling | hrepeated) | hclash
      · split at hspelling
        · cases hspelling
        · rw [List.mem_singleton.1 hspelling]; rfl
      · split at hrepeated
        · rw [List.mem_singleton.1 hrepeated]; rfl
        · cases hrepeated
      · split at hclash
        · split at hclash
          · cases hclash
          · rw [List.mem_singleton.1 hclash]; rfl
        · cases hclash
    · exact ih breach hrest

theorem aspect_bucketBreach {d : Declaration} {breach : Breach}
    (h : bucketBreach? policy d = some breach) : breach.aspect? = some .buckets := by
  unfold bucketBreach? at h
  split at h
  · cases h; rfl
  · obtain ⟨fault, -, rfl⟩ := Option.map_eq_some_iff.1 h
    rfl

/-- The check of an aspect reports on it, at the site of the metric. -/
theorem of_mem_check {aspect : Aspect} {d : Declaration} {v : Violation}
    (h : v ∈ aspect.check policy d) : v.breach.aspect? = some aspect ∧ v.sites = [d.site] := by
  cases aspect with
  | name =>
    simp only [Aspect.check, illegalName] at h
    split at h
    · cases h
    · rw [List.mem_singleton.1 h]
      exact ⟨rfl, rfl⟩
  | labels =>
    obtain ⟨breach, hbreach, rfl⟩ := List.mem_map.1 h
    exact ⟨aspect_labelsBreaches breach hbreach, rfl⟩
  | buckets =>
    simp only [Aspect.check, Option.mem_toList, Option.map_eq_some_iff] at h
    obtain ⟨breach, hbreach, rfl⟩ := h
    exact ⟨aspect_bucketBreach hbreach, rfl⟩

theorem aspect_flatMap_check (aspect : Aspect) :
    ∀ v ∈ ds.flatMap (aspect.check policy), v.breach.aspect? = some aspect := by
  intro v hv
  obtain ⟨d, -, hv⟩ := List.mem_flatMap.1 hv
  exact (of_mem_check hv).1

/-! ## The checks that compare -/

/-- What a check that compares metrics reports: nothing about a single one, and at sites of the
declarations only. -/
def Comparing (ds : List Declaration) (v : Violation) : Prop :=
  v.breach.aspect? = none ∧ ∀ site ∈ v.sites, ∃ d ∈ ds, d.site = site

theorem comparing_duplicateNames : ∀ v ∈ duplicateNames ds, Comparing ds v := by
  intro v hv
  obtain ⟨⟨name, users⟩, hgroup, hv⟩ := List.mem_flatMap.1 hv
  dsimp only at hv
  split at hv
  · obtain ⟨-, rfl⟩ := mem_groupBy.1 hgroup
    rw [List.mem_singleton.1 hv]
    refine ⟨rfl, fun site hsite => ?_⟩
    obtain ⟨d, hd, rfl⟩ := List.mem_map.1 hsite
    exact ⟨d, (List.mem_filter.1 hd).1, rfl⟩
  · cases hv

theorem mem_of_mem_dropRepeats {site : String} {sites : List String}
    (h : site ∈ dropRepeats sites) : site ∈ sites := by
  fun_induction dropRepeats sites with
  | case1 a rest ih => exact List.mem_cons_of_mem a (ih h)
  | case2 a b rest _ ih =>
    rcases List.mem_cons.1 h with rfl | hrest
    · exact List.mem_cons_self
    · exact List.mem_cons_of_mem a (ih hrest)
  | case3 sites => exact h

theorem comparing_illegalIdentifiers : ∀ v ∈ illegalIdentifiers ds, Comparing ds v := by
  intro v hv
  obtain ⟨⟨spelling, uses⟩, hgroup, hv⟩ := List.mem_flatMap.1 hv
  dsimp only at hv
  split at hv
  · cases hv
  · obtain ⟨-, rfl⟩ := mem_groupBy.1 hgroup
    rw [List.mem_singleton.1 hv]
    refine ⟨rfl, fun site hsite => ?_⟩
    obtain ⟨use, huse, rfl⟩ := List.mem_map.1 (mem_of_mem_dropRepeats hsite)
    obtain ⟨d, hd, huse⟩ := List.mem_flatMap.1 (List.mem_filter.1 huse).1
    obtain ⟨spelling, -, rfl⟩ := List.mem_map.1 huse
    exact ⟨d, hd, rfl⟩

/-- A clash that is reported is one of those there are. -/
theorem mem_of_mem_clashes {reported : List (List String)} {members : List (Member × List String)}
    {v : Violation} (h : v ∈ clashes reported members) :
    ∃ member, v.breach = .duplicateMember member.scope member.name ∧ (member, v.sites) ∈ members := by
  induction members generalizing reported with
  | nil => cases h
  | cons first rest ih =>
    obtain ⟨member, sites⟩ := first
    rw [clashes] at h
    split at h
    · rcases List.mem_cons.1 h with rfl | h
      · exact ⟨member, rfl, List.mem_cons_self⟩
      · obtain ⟨m, hbreach, hm⟩ := ih h
        exact ⟨m, hbreach, List.mem_cons_of_mem _ hm⟩
    · obtain ⟨m, hbreach, hm⟩ := ih h
      exact ⟨m, hbreach, List.mem_cons_of_mem _ hm⟩

theorem site_of_memberSites {view : Declaration → Member} {member : Member} {sites : List String}
    (h : (member, sites) ∈ memberSites view ds) : ∀ site ∈ sites, ∃ d ∈ ds, d.site = site := by
  obtain ⟨⟨m, users⟩, hgroup, heq⟩ := List.mem_map.1 h
  cases heq
  obtain ⟨-, rfl⟩ := mem_groupBy.1 hgroup
  intro site hsite
  obtain ⟨d, hd, rfl⟩ := List.mem_map.1 hsite
  exact ⟨d, (List.mem_filter.1 hd).1, rfl⟩

theorem comparing_duplicateMembers : ∀ v ∈ duplicateMembers ds, Comparing ds v := by
  intro v hv
  obtain ⟨member, hbreach, hmember⟩ := mem_of_mem_clashes hv
  refine ⟨by rw [hbreach]; rfl, ?_⟩
  rcases List.mem_append.1 hmember with haccessor | hfield
  · exact site_of_memberSites haccessor
  · exact site_of_memberSites hfield

theorem site_of_moduleUse {use : ModuleUse} (h : use ∈ ds.flatMap moduleUsesOf) :
    ∃ d ∈ ds, d.site = use.site := by
  obtain ⟨d, hd, huse⟩ := List.mem_flatMap.1 h
  obtain ⟨p, segment, q, -, rfl⟩ := mem_moduleUses.1 huse
  exact ⟨d, hd, rfl⟩

theorem mem_sitesOf {uses : List ModuleUse} {site : String} :
    site ∈ sitesOf uses ↔ ∃ use ∈ uses, use.site = site := by
  rw [sitesOf, List.mem_eraseDups, List.mem_map]

theorem comparing_duplicateModules : ∀ v ∈ duplicateModules ds, Comparing ds v := by
  intro v hv
  obtain ⟨⟨place, uses⟩, hgroup, hv⟩ := List.mem_flatMap.1 hv
  dsimp only at hv
  split at hv
  · obtain ⟨-, rfl⟩ := mem_places.1 hgroup
    rw [List.mem_singleton.1 hv]
    refine ⟨rfl, fun site hsite => ?_⟩
    obtain ⟨use, huse, rfl⟩ := mem_sitesOf.1 hsite
    exact site_of_moduleUse (List.mem_filter.1 huse).1
  · cases hv

theorem comparing_reservedModuleNames : ∀ v ∈ reservedModuleNames ds, Comparing ds v := by
  intro v hv
  obtain ⟨⟨name, uses⟩, hgroup, rfl⟩ := List.mem_map.1 hv
  refine ⟨rfl, fun site hsite => ?_⟩
  obtain ⟨-, rfl⟩ := mem_groupBy.1 hgroup
  obtain ⟨use, huse, rfl⟩ := mem_sitesOf.1 hsite
  obtain ⟨⟨place, placed⟩, hplace, huse⟩ := List.mem_flatMap.1 (List.mem_filter.1 huse).1
  dsimp only at huse
  split at huse
  · obtain ⟨-, rfl⟩ := mem_places.1 hplace
    exact site_of_moduleUse (List.mem_filter.1 huse).1
  · cases huse

/-! ## All checks together -/

theorem about_comparing {aspect : Aspect} {vs : List Violation} (h : ∀ v ∈ vs, Comparing ds v) :
    about aspect vs = [] := by
  rw [about_of_aspect fun v hv => (h v hv).1]
  rfl

/-- What is reported on an aspect is what its check finds, metric by metric. -/
theorem about_violations (aspect : Aspect) :
    about aspect (violations policy ds) = ds.flatMap (aspect.check policy) := by
  have hnames : illegalNames ds = ds.flatMap (Aspect.name.check policy) := rfl
  have hlabels : illegalLabels ds = ds.flatMap (Aspect.labels.check policy) := rfl
  have hbuckets : illegalBuckets policy ds = ds.flatMap (Aspect.buckets.check policy) := rfl
  simp only [violations, about_append]
  rw [about_comparing comparing_duplicateNames, about_comparing comparing_illegalIdentifiers,
    about_comparing comparing_duplicateMembers, about_comparing comparing_duplicateModules,
    about_comparing comparing_reservedModuleNames, hnames, hlabels, hbuckets,
    about_of_aspect (aspect_flatMap_check .name), about_of_aspect (aspect_flatMap_check .labels),
    about_of_aspect (aspect_flatMap_check .buckets)]
  cases aspect with
  | name | labels | buckets => simp

theorem site_of_check (aspect : Aspect) {v : Violation}
    (h : v ∈ ds.flatMap (aspect.check policy)) : ∀ site ∈ v.sites, ∃ d ∈ ds, d.site = site := by
  obtain ⟨d, hd, hv⟩ := List.mem_flatMap.1 h
  intro site hsite
  rw [(of_mem_check hv).2] at hsite
  exact ⟨d, hd, (List.mem_singleton.1 hsite).symm⟩

theorem site_of_violation {v : Violation} (h : v ∈ violations policy ds) :
    ∀ site ∈ v.sites, ∃ d ∈ ds, d.site = site := by
  simp only [violations, List.mem_append] at h
  obtain (((((((h | h) | h) | h) | h) | h) | h) | h) := h
  · exact site_of_check .name (show v ∈ ds.flatMap (Aspect.name.check policy) from h)
  · exact (comparing_duplicateNames v h).2
  · exact site_of_check .labels (show v ∈ ds.flatMap (Aspect.labels.check policy) from h)
  · exact (comparing_illegalIdentifiers v h).2
  · exact (comparing_duplicateMembers v h).2
  · exact (comparing_duplicateModules v h).2
  · exact (comparing_reservedModuleNames v h).2
  · exact site_of_check .buckets h

/-- **No metric hides what is wrong with another.** On each aspect of the metrics, compiling a
set reports in order what compiling the declarations one by one reports, no more and no less. And
whatever it reports, it reports at sites of the declarations. -/
theorem reported_apart (policy : BucketPolicy) (ds : List Declaration) :
    (∀ aspect, about aspect (reported policy ds) =
        ds.flatMap fun d => about aspect (reported policy [d])) ∧
      ∀ v ∈ reported policy ds, ∀ site ∈ v.sites, ∃ d ∈ ds, d.site = site := by
  simp only [reported_eq_violations]
  constructor
  · intro aspect
    have halone : ∀ d, about aspect (violations policy [d]) = aspect.check policy d := by
      intro d
      rw [about_violations, List.flatMap_singleton]
    simp only [halone]
    exact about_violations aspect
  · intro v hv
    exact site_of_violation hv

end MetricFacade
