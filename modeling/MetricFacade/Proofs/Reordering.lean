import Mathlib.Data.List.Sort
import MetricFacade.Backend
import MetricFacade.Proofs.Partition

/-!
# Declarations in another order

The checks go through the declarations in order: they remember who came first, leave out what they
reported before, and list sites as they meet them. So what they find is told in another way when
the declarations are reordered. Whether they find anything is not, since that can be said without
any order and treats the declarations alike.

Results:

* `Nameable.perm`: what can be named can be named in any order.
* `scopes_facades_perm`, `metrics_facades_perm`: the namespaces come out alike, with the same metrics.
* `facades_eq_of_declaredIn`: only the order inside the namespaces is seen.
* `compile_perm`: the answers for two orders compared.
-/
namespace MetricFacade

open Check MetricFacade.Metric

variable {ds es : List Declaration} {policy : BucketPolicy}

/-! ## The verdict -/

/-- Members clash in pairs, and a pair clashes either way around. -/
theorem Check.MembersFit.perm {name : Declaration → String} (hperm : ds.Perm es)
    (h : MembersFit name ds) : MembersFit name es where
  distinct := by
    refine h.distinct.perm hperm ?_
    intro d e hde hscope
    exact (hde hscope.symm).symm
  free := fun e he => h.free e (hperm.mem_iff.2 he)

theorem Check.ModulesFit.perm (hperm : ds.Perm es) (h : ModulesFit ds) : ModulesFit es where
  free := fun e he => h.free e (hperm.mem_iff.2 he)
  distinct := fun d hd e he => h.distinct d (hperm.mem_iff.2 hd) e (hperm.mem_iff.2 he)

theorem Nameable.perm (hperm : ds.Perm es) (h : Nameable ds) : Nameable es where
  names := fun e he => h.names e (hperm.mem_iff.2 he)
  names_distinct := (hperm.map _).nodup_iff.1 h.names_distinct
  labels := fun e he => h.labels e (hperm.mem_iff.2 he)
  identifiers := fun e he => h.identifiers e (hperm.mem_iff.2 he)
  accessors := h.accessors.perm hperm
  fields := h.fields.perm hperm
  modules := h.modules.perm hperm

theorem violations_nil_perm (hperm : ds.Perm es) (h : violations policy ds = []) :
    violations policy es = [] := by
  obtain ⟨hnameable, hbuckets⟩ := violations_eq_nil.1 h
  rw [illegalBuckets_eq_nil] at hbuckets
  rw [violations_eq_nil, illegalBuckets_eq_nil]
  exact ⟨hnameable.perm hperm, fun e he => hbuckets e (hperm.mem_iff.2 he)⟩

theorem compiles_perm (hperm : ds.Perm es) (h : ∃ fs, compile policy ds = .ok fs) :
    ∃ gs, compile policy es = .ok gs := by
  obtain ⟨fs, hfs⟩ := h
  have hnone := violations_nil_perm hperm (compile_eq_ok_iff.1 hfs).1
  exact ⟨facades es, compile_eq_ok_iff.2 ⟨hnone, rfl⟩⟩

/-! ## The facades -/

/-- Both lists of namespaces ascend and hold the same ones. -/
theorem scopes_facades_perm (hperm : ds.Perm es) :
    (facades es).map (·.scope) = (facades ds).map (·.scope) := by
  have hds := partition_facades ds
  have hes := partition_facades es
  refine hes.scopes_ascending.eq_of_mem_iff hds.scopes_ascending fun scope => ?_
  rw [hes.mem_scopes, hds.mem_scopes]
  simp only [hperm.mem_iff]

/-- The facade of one namespace. -/
def facadeIn (ds : List Declaration) (scope : String) : Facade :=
  ⟨scope, (declaredIn ds scope).map (·.resolve)⟩

theorem facades_eq_map_scopes (ds : List Declaration) :
    facades ds = ((facades ds).map (·.scope)).map (facadeIn ds) :=
  (partition_facades ds).eq_map_scopes

/-- Facade by facade, the same metrics in some order. -/
theorem metrics_facades_perm (hperm : ds.Perm es) :
    List.Forall₂ (fun f g => g.scope = f.scope ∧ g.metrics.Perm f.metrics)
      (facades ds) (facades es) := by
  have hds := facades_eq_map_scopes ds
  have hes := facades_eq_map_scopes es
  rw [scopes_facades_perm hperm] at hes
  generalize (facades ds).map (·.scope) = scopes at hds hes
  rw [hds, hes, List.forall₂_map_left_iff, List.forall₂_map_right_iff, List.forall₂_same]
  intro scope _
  exact ⟨rfl, (hperm.symm.filter _).map _⟩

/-- Nothing but the order inside the namespaces is seen of the order of the declarations. -/
theorem facades_eq_of_declaredIn (hperm : ds.Perm es)
    (h : ∀ scope, declaredIn es scope = declaredIn ds scope) : facades es = facades ds := by
  have hsame : facadeIn es = facadeIn ds := by
    funext scope
    rw [facadeIn, h, facadeIn]
  rw [facades_eq_map_scopes es, scopes_facades_perm hperm, hsame, ← facades_eq_map_scopes]

/-- **The order of the declarations counts inside namespaces only.** A reordered set compiles
exactly if the set does, to facades with the same namespaces in the same order, each with the same
metrics in some order. If the declarations of every namespace have kept their order, the facades
are the same, and so is whatever is written for them. -/
theorem compile_perm (policy : BucketPolicy) {ds es : List Declaration} (hperm : ds.Perm es) :
    ((∃ gs, compile policy es = .ok gs) ↔ ∃ fs, compile policy ds = .ok fs) ∧
      ∀ fs gs, compile policy ds = .ok fs → compile policy es = .ok gs →
        gs.map (·.scope) = fs.map (·.scope) ∧
        List.Forall₂ (fun f g => g.scope = f.scope ∧ g.metrics.Perm f.metrics) fs gs ∧
        ((∀ scope, declaredIn es scope = declaredIn ds scope) →
          gs = fs ∧ ∀ (b : Backend) (crateName : String), b.emit crateName gs = b.emit crateName fs) := by
  refine ⟨⟨compiles_perm hperm.symm, compiles_perm hperm⟩, ?_⟩
  intro fs gs hfs hgs
  obtain ⟨-, rfl⟩ := compile_eq_ok_iff.1 hfs
  obtain ⟨-, rfl⟩ := compile_eq_ok_iff.1 hgs
  refine ⟨scopes_facades_perm hperm, metrics_facades_perm hperm, fun hkept => ?_⟩
  have hsame := facades_eq_of_declaredIn hperm hkept
  exact ⟨hsame, fun b crateName => by rw [hsame]⟩

/-- The namespaces of `turnsSample` take turns in another way, each in its own order. -/
def turnedSample : List Declaration :=
  [⟨"b", "Z", .counter, none, "", [], []⟩, ⟨"b::c", "X", .counter, none, "", [], []⟩,
   ⟨"b::c", "W", .histogram, none, "", [], []⟩, ⟨"a", "Y", .gauge, none, "", [], []⟩]

theorem turnedSample_perm :
    turnsSample.Perm turnedSample ∧
      compile .strict turnsSample = .ok (facades turnsSample) ∧
      compile .strict turnedSample = .ok (facades turnedSample) ∧
      facades turnedSample = facades turnsSample := by
  have hperm : turnsSample.Perm turnedSample := by decide +kernel
  have hturns : compile .strict turnsSample = .ok (facades turnsSample) :=
    compile_eq_ok_iff.2 ⟨by decide +kernel, rfl⟩
  have hturned : compile .strict turnedSample = .ok (facades turnedSample) := by
    obtain ⟨gs, hgs⟩ := (compile_perm .strict hperm).1.2 ⟨_, hturns⟩
    rw [hgs, (compile_eq_ok_iff.1 hgs).2]
  have hkept : ∀ scope, declaredIn turnedSample scope = declaredIn turnsSample scope := by
    intro scope
    by_cases hpath : scope = "b::c"
    · subst hpath
      decide +kernel
    by_cases ha : scope = "a"
    · subst ha
      decide +kernel
    by_cases hb : scope = "b"
    · subst hb
      decide +kernel
    · simp [declaredIn, turnedSample, turnsSample, Ne.symm hpath, Ne.symm ha, Ne.symm hb]
  exact ⟨hperm, hturns, hturned, (((compile_perm .strict hperm).2 _ _ hturns hturned).2.2 hkept).1⟩

end MetricFacade
