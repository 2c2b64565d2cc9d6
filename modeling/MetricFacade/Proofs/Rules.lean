import MetricFacade.Proofs.Reports

/-!
# Violations by rule

The checks share the rules out between them: a check reports breaches of its own rule or two,
and only two rules have two checks each. So the violations of one rule are read off the checks
that are about it, in the order in which they run.

Results:

* `against_duplicateName`, `against_duplicateMember`, `against_illegalIdentifier`: what is reported
  against the rules that compare metrics, check by check.
* `against_inconsistentBuckets`: annotations are the business of one check.
-/
namespace MetricFacade

open Check MetricFacade.Metric

variable {policy : BucketPolicy} {ds : List Declaration}

/-- What can be broken, details left aside. -/
inductive Rule where
  | illegalName
  | duplicateName
  | inconsistentBuckets
  | invalidBuckets
  | illegalLabel
  | duplicateLabel
  | illegalIdentifier
  | duplicateMember
  deriving Repr, DecidableEq

def Breach.rule : Breach → Rule
  | illegalName _ => .illegalName
  | duplicateName _ _ => .duplicateName
  | inconsistentBuckets _ _ => .inconsistentBuckets
  | invalidBuckets _ _ => .invalidBuckets
  | illegalLabel _ _ => .illegalLabel
  | duplicateLabel _ _ => .duplicateLabel
  | illegalIdentifier _ => .illegalIdentifier
  | duplicateMember _ _ => .duplicateMember

/-- The violations of one rule, in order. -/
def against (rule : Rule) (vs : List Violation) : List Violation :=
  vs.filter fun v => v.breach.rule = rule

theorem against_append (rule : Rule) (vs ws : List Violation) :
    against rule (vs ++ ws) = against rule vs ++ against rule ws :=
  List.filter_append vs ws

/-! ## What the checks keep to -/

/-- No other rules than these are broken. -/
def KeepsTo (rules : List Rule) (vs : List Violation) : Prop :=
  ∀ v ∈ vs, v.breach.rule ∈ rules

theorem KeepsTo.against_eq {rule : Rule} {vs : List Violation} (h : KeepsTo [rule] vs) :
    against rule vs = vs := by
  rw [against, List.filter_eq_self]
  intro v hv
  exact decide_eq_true (List.mem_singleton.1 (h v hv))

theorem KeepsTo.against_eq_nil {rules : List Rule} {rule : Rule} {vs : List Violation}
    (h : KeepsTo rules vs) (hother : rule ∉ rules) : against rule vs = [] := by
  rw [against, List.filter_eq_nil_iff]
  intro v hv hrule
  exact hother (of_decide_eq_true hrule ▸ h v hv)

theorem keepsTo_illegalNames : KeepsTo [.illegalName] (illegalNames ds) := by
  intro v hv
  obtain ⟨d, -, hv⟩ := List.mem_flatMap.1 hv
  unfold illegalName at hv
  split at hv
  · cases hv
  · rw [List.mem_singleton.1 hv]
    exact List.mem_singleton.2 rfl

theorem keepsTo_duplicateNames : KeepsTo [.duplicateName] (duplicateNames ds) := by
  intro v hv
  obtain ⟨⟨name, users⟩, -, hv⟩ := List.mem_flatMap.1 hv
  dsimp only at hv
  split at hv
  · rw [List.mem_singleton.1 hv]
    exact List.mem_singleton.2 rfl
  · cases hv

theorem keepsTo_illegalLabels : KeepsTo [.illegalLabel, .duplicateLabel] (illegalLabels ds) := by
  intro v hv
  obtain ⟨d, -, hv⟩ := List.mem_flatMap.1 hv
  obtain ⟨breach, hbreach, rfl⟩ := List.mem_map.1 hv
  have haspect := aspect_labelsBreaches breach hbreach
  cases breach with
  | illegalLabel | duplicateLabel => simp [Breach.rule]
  | _ => cases haspect

theorem keepsTo_illegalIdentifiers : KeepsTo [.illegalIdentifier] (illegalIdentifiers ds) := by
  intro v hv
  obtain ⟨⟨spelling, uses⟩, -, hv⟩ := List.mem_flatMap.1 hv
  dsimp only at hv
  split at hv
  · cases hv
  · rw [List.mem_singleton.1 hv]
    exact List.mem_singleton.2 rfl

theorem keepsTo_duplicateMembers : KeepsTo [.duplicateMember] (duplicateMembers ds) := by
  intro v hv
  obtain ⟨member, hbreach, -⟩ := mem_of_mem_clashes hv
  rw [hbreach]
  exact List.mem_singleton.2 rfl

theorem keepsTo_duplicateModules : KeepsTo [.duplicateMember] (duplicateModules ds) := by
  intro v hv
  obtain ⟨⟨place, uses⟩, -, hv⟩ := List.mem_flatMap.1 hv
  dsimp only at hv
  split at hv
  · rw [List.mem_singleton.1 hv]
    exact List.mem_singleton.2 rfl
  · cases hv

theorem keepsTo_reservedModuleNames : KeepsTo [.illegalIdentifier] (reservedModuleNames ds) := by
  intro v hv
  obtain ⟨⟨name, uses⟩, -, rfl⟩ := List.mem_map.1 hv
  exact List.mem_singleton.2 rfl

theorem keepsTo_illegalBuckets :
    KeepsTo [.inconsistentBuckets, .invalidBuckets] (illegalBuckets policy ds) := by
  intro v hv
  obtain ⟨d, -, hv⟩ := List.mem_flatMap.1 hv
  simp only [Option.mem_toList, Option.map_eq_some_iff] at hv
  obtain ⟨breach, hbreach, rfl⟩ := hv
  have haspect := aspect_bucketBreach hbreach
  cases breach with
  | inconsistentBuckets | invalidBuckets => simp [Breach.rule]
  | _ => cases haspect

/-! ## All checks together -/

/-- The checks in the order in which they run, each with the rules that it keeps to. -/
def checks (policy : BucketPolicy) (ds : List Declaration) : List (List Rule × List Violation) :=
  [([.illegalName], illegalNames ds), ([.duplicateName], duplicateNames ds),
   ([.illegalLabel, .duplicateLabel], illegalLabels ds),
   ([.illegalIdentifier], illegalIdentifiers ds), ([.duplicateMember], duplicateMembers ds),
   ([.duplicateMember], duplicateModules ds), ([.illegalIdentifier], reservedModuleNames ds),
   ([.inconsistentBuckets, .invalidBuckets], illegalBuckets policy ds)]

theorem keepsTo_checks : ∀ check ∈ checks policy ds, KeepsTo check.1 check.2 := by
  simp only [checks, List.forall_mem_cons]
  exact ⟨keepsTo_illegalNames, keepsTo_duplicateNames, keepsTo_illegalLabels,
    keepsTo_illegalIdentifiers, keepsTo_duplicateMembers, keepsTo_duplicateModules,
    keepsTo_reservedModuleNames, keepsTo_illegalBuckets, by simp⟩

theorem against_flatMap_checks (rule : Rule) {cs : List (List Rule × List Violation)}
    (h : ∀ check ∈ cs, KeepsTo check.1 check.2) :
    against rule (cs.flatMap (·.2)) =
      (cs.filter fun check => rule ∈ check.1).flatMap fun check => against rule check.2 := by
  induction cs with
  | nil => rfl
  | cons check cs ih =>
    rw [List.forall_mem_cons] at h
    rw [List.flatMap_cons, against_append, ih h.2, List.filter_cons]
    by_cases hrule : rule ∈ check.1
    · rw [if_pos (decide_eq_true hrule), List.flatMap_cons]
    · rw [if_neg (by simpa using hrule), h.1.against_eq_nil hrule, List.nil_append]

/-- Only the checks that are about a rule have a say in what is reported against it. -/
theorem against_reported (rule : Rule) :
    against rule (reported policy ds) =
      ((checks policy ds).filter fun check => rule ∈ check.1).flatMap fun check =>
        against rule check.2 := by
  rw [← against_flatMap_checks rule keepsTo_checks, reported_eq_violations]
  simp [checks, violations]

theorem against_duplicateName :
    against .duplicateName (reported policy ds) = duplicateNames ds := by
  rw [against_reported]
  simp [checks, keepsTo_duplicateNames.against_eq]

theorem against_duplicateMember :
    against .duplicateMember (reported policy ds) = duplicateMembers ds ++ duplicateModules ds := by
  rw [against_reported]
  simp [checks, keepsTo_duplicateMembers.against_eq, keepsTo_duplicateModules.against_eq]

theorem against_illegalIdentifier :
    against .illegalIdentifier (reported policy ds) =
      illegalIdentifiers ds ++ reservedModuleNames ds := by
  rw [against_reported]
  simp [checks, keepsTo_illegalIdentifiers.against_eq, keepsTo_reservedModuleNames.against_eq]

theorem against_inconsistentBuckets :
    against .inconsistentBuckets (reported policy ds) =
      against .inconsistentBuckets (illegalBuckets policy ds) := by
  rw [against_reported]
  simp [checks]

end MetricFacade
