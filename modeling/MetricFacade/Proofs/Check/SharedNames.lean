import MetricFacade.Proofs.Rules
import MetricFacade.Proofs.Text.ByteOrder

/-!
# Names that several metrics share

All metrics meet in one registry, so a resolved name is looked at wherever it is declared and
however it came about: as a name that was given, as its canonical form, or as the identifier that
stands in for it. The groups by name share the declarations out, so those that are reported and
those that stand alone make up the whole set.

Results:

* `duplicateNames_eq`: the report, name by name.
* `shared_and_single`: counting the declarations by their names.
* `sharedNames_reported`: what compiling reports of shared names.
-/
namespace MetricFacade

open Check MetricFacade.Metric

/-- The declarations that resolve to a name, in order. -/
def declaredAs (ds : List Declaration) (name : String) : List Declaration :=
  ds.filter fun d => d.resolvedName = name

/-- What is to be reported of a name that several declarations share. -/
def sharedName (ds : List Declaration) (name : String) : Violation :=
  ⟨.duplicateName name (declaredAs ds name).length, (declaredAs ds name).map (·.site)⟩

/-- How many declarations of one name a breach speaks of. -/
def Breach.declarations : Breach → Nat
  | duplicateName _ count => count
  | _ => 0

variable {policy : BucketPolicy} {ds : List Declaration}

theorem declaredAs_pos {name : String} :
    0 < (declaredAs ds name).length ↔ name ∈ ds.map (·.resolvedName) := by
  rw [List.length_pos_iff_exists_mem, List.mem_map]
  simp only [declaredAs, List.mem_filter, decide_eq_true_eq]

/-- The names that occur, ascending. -/
def namesOf (ds : List Declaration) : List String :=
  distinctKeys textLe (ds.map (·.resolvedName))

theorem mem_namesOf {name : String} : name ∈ namesOf ds ↔ 0 < (declaredAs ds name).length := by
  rw [namesOf, mem_distinctKeys, declaredAs_pos]

theorem duplicateNames_eq :
    duplicateNames ds =
      ((namesOf ds).filter fun name => 1 < (declaredAs ds name).length).map (sharedName ds) := by
  rw [duplicateNames, groupBy, List.flatMap_map]
  exact (flatMap_guarded (fun name => 1 < (declaredAs ds name).length)
    (fun name => [sharedName ds name]) (namesOf ds)).trans List.map_eq_flatMap.symm

/-- Sizes are summed up over those above one, the others are counted. -/
theorem shared_and_single {κ : Type} {keys : List κ} {size : κ → Nat}
    (h : ∀ k ∈ keys, 0 < size k) :
    ((keys.filter fun k => 1 < size k).map size).sum +
      (keys.filter fun k => size k = 1).length = (keys.map size).sum := by
  induction keys with
  | nil => rfl
  | cons k keys ih =>
    rw [List.forall_mem_cons] at h
    have hrest := ih h.2
    by_cases hk : size k = 1
    · rw [List.filter_cons_of_neg (by simp [hk]), List.filter_cons_of_pos (by simpa using hk),
        List.length_cons, List.map_cons, List.sum_cons]
      omega
    · have hmany : 1 < size k := by have := h.1; omega
      rw [List.filter_cons_of_pos (by simpa using hmany), List.filter_cons_of_neg (by simpa using hk),
        List.map_cons, List.sum_cons, List.map_cons, List.sum_cons]
      omega

/-- **Every shared name is reported once, with all that share it.** The names come in ascending
order of their bytes, well spelled or not; a name is among them exactly if two declarations or more
resolve to it, and is reported with their number and their sites, in order and as often as they
occur. So the declarations are those that the reports count and those whose name is used once. -/
theorem sharedNames_reported (policy : BucketPolicy) (ds : List Declaration) :
    ∃ shared single : List String,
      shared.Pairwise (fun a b => Text.bytes a < Text.bytes b) ∧
      (∀ name, name ∈ shared ↔ 2 ≤ (declaredAs ds name).length) ∧
      against .duplicateName (reported policy ds) = shared.map (sharedName ds) ∧
      single.Nodup ∧
      (∀ name, name ∈ single ↔ (declaredAs ds name).length = 1) ∧
      ((against .duplicateName (reported policy ds)).map (·.breach.declarations)).sum +
        single.length = ds.length := by
  have hascending : (namesOf ds).Pairwise (fun a b => Text.bytes a < Text.bytes b) :=
    (distinctTexts_ascending _).imp Text.bytes_lt_iff.2
  have hreport : against .duplicateName (reported policy ds) =
      ((namesOf ds).filter fun name => 1 < (declaredAs ds name).length).map (sharedName ds) := by
    rw [against_duplicateName, duplicateNames_eq]
  refine ⟨(namesOf ds).filter fun name => 1 < (declaredAs ds name).length,
    (namesOf ds).filter fun name => (declaredAs ds name).length = 1,
    hascending.filter _, ?shared, hreport, (nodup_distinctKeys _).filter _, ?single, ?count⟩
  case shared =>
    intro name
    rw [List.mem_filter, mem_namesOf, decide_eq_true_eq]
    omega
  case single =>
    intro name
    rw [List.mem_filter, mem_namesOf, decide_eq_true_eq]
    omega
  case count =>
    have hcounts : (fun v : Violation => v.breach.declarations) ∘ sharedName ds =
        fun name => (declaredAs ds name).length := rfl
    rw [hreport, List.map_map, hcounts,
      shared_and_single fun name hname => mem_namesOf.1 hname]
    exact sum_groups (·.resolvedName) ds

/-- One name by three routes, and another that is used once. -/
example : duplicateNames
    [⟨"a", "Hits", .counter, none, "", [], []⟩, ⟨"b", "Other", .gauge, some " Hits ", "", [], []⟩,
     ⟨"b", "Once", .counter, none, "", [], []⟩, ⟨"a", "Hits", .counter, some "", "", [], []⟩] =
    [⟨.duplicateName "Hits" 3, ["a::Hits", "b::Other", "a::Hits"]⟩] := by decide +kernel

end MetricFacade
