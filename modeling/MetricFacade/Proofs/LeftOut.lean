import MetricFacade.Proofs.Reordering
import MetricFacade.Proofs.Reports

/-!
# What is reported for declarations in another order

Two members that clash are reported with their sites, and a clash with the sites of an earlier one
is left out. The sites come in the order of the declarations, so whether two clashes have the same
sites can depend on that order, and with it whether a clash is reported at all. Nothing else of
what is reported depends on it.

Results:

* `clashes_with_repeated_perm`: a clash is reported or left out.
* `violations_with_leftOut_perm`: with what was left out, the order does not count.
* `leftOut_perm`: where a site stands for one accessor and one field, it does not count either.
* `kinds_perm`: the reports for two orders compared.
-/
namespace MetricFacade

open Check MetricFacade.Metric

variable {policy : BucketPolicy} {ds es : List Declaration}

/-- The rules that some violations break, whatever the sites. -/
def breaches (vs : List Violation) : List Breach :=
  vs.map (·.breach)

@[simp] theorem breaches_append (vs ws : List Violation) :
    breaches (vs ++ ws) = breaches vs ++ breaches ws :=
  List.map_append

/-! ## The checks but that of the members -/

/-- Checks that go from declaration to declaration, or from use to use. -/
theorem breaches_flatMap_perm {α : Type} {xs ys : List α} {f : α → List Violation}
    (hperm : xs.Perm ys) : (breaches (xs.flatMap f)).Perm (breaches (ys.flatMap f)) :=
  (hperm.flatMap_right f).map _

/-- Checks that go from group to group, and whose verdict on a group has nothing to do with the
order in it. -/
theorem breaches_groups_perm {α κ : Type} [DecidableEq κ] {le : κ → κ → Bool} {key : α → κ}
    {xs ys : List α} {f : κ × List α → List Violation} (hperm : xs.Perm ys)
    (hf : ∀ k as bs, as.Perm bs → breaches (f (k, as)) = breaches (f (k, bs))) :
    (breaches ((groupBy le key xs).flatMap f)).Perm
      (breaches ((groupBy le key ys).flatMap f)) := by
  unfold breaches at hf ⊢
  rw [List.map_flatMap, List.map_flatMap]
  exact flatMap_groups_perm hperm fun k as bs hgroup => .of_eq (hf k as bs hgroup)

theorem breaches_duplicateNames_perm (hperm : ds.Perm es) :
    (breaches (duplicateNames ds)).Perm (breaches (duplicateNames es)) := by
  refine breaches_groups_perm hperm fun name as bs hgroup => ?_
  dsimp only
  rw [hgroup.length_eq]
  split
  · rfl
  · rfl

theorem breaches_illegalIdentifiers_perm (hperm : ds.Perm es) :
    (breaches (illegalIdentifiers ds)).Perm (breaches (illegalIdentifiers es)) := by
  refine breaches_groups_perm (hperm.flatMap_right _) fun spelling as bs _ => ?_
  dsimp only
  split
  · rfl
  · rfl

theorem breaches_duplicateModules_perm (hperm : ds.Perm es) :
    (breaches (duplicateModules ds)).Perm (breaches (duplicateModules es)) := by
  refine breaches_groups_perm (hperm.flatMap_right _) fun place as bs hgroup => ?_
  dsimp only
  rw [(eraseDups_perm (hgroup.map _)).length_eq]
  split
  · rfl
  · rfl

theorem breaches_reservedModuleNames_perm (hperm : ds.Perm es) :
    (breaches (reservedModuleNames ds)).Perm (breaches (reservedModuleNames es)) := by
  unfold reservedModuleNames places
  rw [List.map_eq_flatMap, List.map_eq_flatMap]
  refine breaches_groups_perm ?_ fun name as bs _ => rfl
  refine flatMap_groups_perm (hperm.flatMap_right _) fun place as bs hgroup => ?_
  dsimp only
  split
  · exact hgroup
  · exact List.Perm.nil

/-! ## Members -/

namespace Check

def Member.breach (m : Member) : Breach :=
  .duplicateMember m.scope m.name

def isClashing (m : Member × List String) : Bool :=
  isClash m.1 m.2

/-- The members that clash, accessors before fields, with their sites. -/
def clashing (ds : List Declaration) : List (Member × List String) :=
  (memberSites accessorOf ds ++ memberSites fieldOf ds).filter isClashing

/-- The clashes with sites that an earlier clash has, or that are among the `earlier` ones. -/
def repeated : List (List String) → List (Member × List String) → List (Member × List String)
  | _, [] => []
  | earlier, clash :: rest =>
    if earlier.contains clash.2 then clash :: repeated earlier rest
    else repeated (clash.2 :: earlier) rest

/-- The clashes that are not reported. -/
def leftOut (ds : List Declaration) : List Breach :=
  (repeated [] (clashing ds)).map (·.1.breach)

/-- Every clash is reported or left out, and not both. -/
theorem clashes_with_repeated_perm (reported : List (List String))
    (members : List (Member × List String)) :
    (breaches (clashes reported members) ++
        (repeated reported (members.filter isClashing)).map (·.1.breach)).Perm
      ((members.filter isClashing).map (·.1.breach)) := by
  induction members generalizing reported with
  | nil => exact List.Perm.nil
  | cons first rest ih =>
    obtain ⟨member, sites⟩ := first
    by_cases hclash : isClashing (member, sites)
    · rw [List.filter_cons_of_pos hclash, clashes, repeated]
      by_cases hold : sites ∈ reported
      · rw [if_neg fun h => h.2 hold, if_pos (List.contains_iff_mem.2 hold), List.map_cons,
          List.map_cons]
        exact List.perm_middle.trans ((ih reported).cons _)
      · rw [if_pos ⟨hclash, hold⟩, if_neg (mt List.contains_iff_mem.1 hold), List.map_cons]
        exact (ih (sites :: reported)).cons _
    · rw [List.filter_cons_of_neg hclash, clashes, if_neg fun h => hclash h.1]
      exact ih reported

/-- The sites of a member under one view of the declarations. -/
def sitesUnder (view : Declaration → Member) (ds : List Declaration) (m : Member) : List String :=
  (ds.filter fun d => view d = m).map (·.site)

theorem memberSites_eq (view : Declaration → Member) (ds : List Declaration) :
    memberSites view ds =
      (distinctKeys Member.le (ds.map view)).map fun m => (m, sitesUnder view ds m) := by
  rw [memberSites, groupBy, List.map_map]
  rfl

/-- Members that are picked alike in two orders. -/
theorem picked_members_perm {view : Declaration → Member} {p q : Member × List String → Bool}
    (hperm : ds.Perm es)
    (hpick : ∀ m, p (m, sitesUnder view ds m) = q (m, sitesUnder view es m)) :
    (((memberSites view ds).filter p).map (·.1)).Perm
      (((memberSites view es).filter q).map (·.1)) := by
  rw [memberSites_eq, memberSites_eq, List.filter_map, List.filter_map, List.map_map, List.map_map]
  have hsame : (q ∘ fun m => (m, sitesUnder view es m)) = p ∘ fun m => (m, sitesUnder view ds m) := by
    funext m
    exact (hpick m).symm
  rw [hsame]
  exact ((distinctKeys_perm (hperm.map view)).filter _).map _

theorem isClash_perm (hperm : ds.Perm es) (view : Declaration → Member) (m : Member) :
    isClash m (sitesUnder view ds m) = isClash m (sitesUnder view es m) := by
  have hlength : (sitesUnder view ds m).length = (sitesUnder view es m).length :=
    ((hperm.filter _).map _).length_eq
  rw [isClash, isClash, hlength]

theorem clashing_perm (hperm : ds.Perm es) :
    ((clashing ds).map (·.1.breach)).Perm ((clashing es).map (·.1.breach)) := by
  have hview : ∀ view, (((memberSites view ds).filter isClashing).map (·.1)).Perm
      (((memberSites view es).filter isClashing).map (·.1)) := by
    intro view
    exact picked_members_perm hperm fun m => isClash_perm hperm view m
  have hmembers := ((hview accessorOf).append (hview fieldOf)).map Member.breach
  rw [← List.map_append, ← List.map_append, ← List.filter_append, ← List.filter_append,
    List.map_map, List.map_map] at hmembers
  exact hmembers

theorem duplicateMembers_with_leftOut_perm (hperm : ds.Perm es) :
    (breaches (duplicateMembers ds) ++ leftOut ds).Perm
      (breaches (duplicateMembers es) ++ leftOut es) :=
  (clashes_with_repeated_perm [] _).trans
    ((clashing_perm hperm).trans (clashes_with_repeated_perm [] _).symm)

/-! ## Sites that stand for one accessor and one field -/

/-- Where the site of a declaration decides its member under a view. -/
def Decides (ds : List Declaration) (view : Declaration → Member) : Prop :=
  ∀ d ∈ ds, ∀ e ∈ ds, d.site = e.site → view d = view e

theorem Decides.perm {view : Declaration → Member} (hperm : ds.Perm es) (h : Decides ds view) :
    Decides es view :=
  fun d hd e he => h d (hperm.mem_iff.2 hd) e (hperm.mem_iff.2 he)

/-- Then the sites of two members are the same, order included, only if the declarations are. -/
theorem sitesUnder_eq_iff {v w : Declaration → Member} (hv : Decides ds v) (hw : Decides ds w)
    {a b : Member} :
    sitesUnder v ds a = sitesUnder w ds b ↔ ∀ d ∈ ds, v d = a ↔ w d = b := by
  have hmem : ∀ (view : Declaration → Member) (m : Member) (site : String),
      site ∈ sitesUnder view ds m ↔ ∃ d ∈ ds, view d = m ∧ d.site = site := by
    intro view m site
    simp [sitesUnder, and_assoc]
  constructor
  · intro hsites d hd
    constructor
    · intro hda
      have hsite : d.site ∈ sitesUnder w ds b := hsites ▸ (hmem v a _).2 ⟨d, hd, hda, rfl⟩
      obtain ⟨e, he, heb, hsame⟩ := (hmem w b _).1 hsite
      rw [← heb, hw e he d hd hsame]
    · intro hdb
      have hsite : d.site ∈ sitesUnder v ds a := hsites ▸ (hmem w b _).2 ⟨d, hd, hdb, rfl⟩
      obtain ⟨e, he, hea, hsame⟩ := (hmem v a _).1 hsite
      rw [← hea, hv e he d hd hsame]
  · intro hsame
    unfold sitesUnder
    congr 1
    refine List.filter_congr fun d hd => ?_
    simp only [hsame d hd]

theorem nodup_sites_memberSites {view : Declaration → Member} (hview : Decides ds view) :
    ((memberSites view ds).map (·.2)).Nodup := by
  have hsites : (memberSites view ds).map (·.2) =
      (distinctKeys Member.le (ds.map view)).map (sitesUnder view ds) := by
    rw [memberSites_eq, List.map_map]
    rfl
  rw [hsites]
  refine (nodup_distinctKeys _).map_on ?_
  intro a ha b _ hab
  obtain ⟨d, hd, rfl⟩ := List.mem_map.1 (mem_distinctKeys.1 ha)
  exact ((sitesUnder_eq_iff hview hview).1 hab d hd).1 rfl

/-- Clashes with different sites are left out only on account of those before them. -/
theorem repeated_of_nodup {clashes : List (Member × List String)}
    (h : (clashes.map (·.2)).Nodup) (earlier : List (List String)) :
    repeated earlier clashes = clashes.filter fun c => c.2 ∈ earlier := by
  induction clashes generalizing earlier with
  | nil => rfl
  | cons clash rest ih =>
    obtain ⟨hnew, hrest⟩ := List.nodup_cons.1 h
    rw [repeated]
    split
    · next hold => rw [List.filter_cons_of_pos (by simpa using hold), ih hrest]
    · next hold =>
      rw [List.filter_cons_of_neg (by simpa using hold), ih hrest]
      refine List.filter_congr fun c hc => ?_
      have hne : c.2 ≠ clash.2 := fun heq => hnew (List.mem_map.2 ⟨c, hc, heq⟩)
      simp [hne]

theorem repeated_append {first : List (Member × List String)}
    (h : (first.map (·.2)).Nodup) {earlier : List (List String)}
    (hnew : ∀ c ∈ first, c.2 ∉ earlier) (rest : List (Member × List String)) :
    repeated earlier (first ++ rest) = repeated ((first.map (·.2)).reverse ++ earlier) rest := by
  induction first generalizing earlier with
  | nil => rfl
  | cons clash first ih =>
    obtain ⟨hother, hfirst⟩ := List.nodup_cons.1 h
    have hclash := mt List.contains_iff_mem.1 (hnew clash List.mem_cons_self)
    rw [List.cons_append, repeated, if_neg hclash, ih hfirst]
    · simp
    · intro c hc
      rw [List.mem_cons, not_or]
      exact ⟨fun heq => hother (List.mem_map.2 ⟨c, hc, heq⟩), hnew c (List.mem_cons_of_mem _ hc)⟩

/-- A field clash is left out exactly if an accessor clash has its sites. -/
theorem leftOut_eq (haccessor : Decides ds accessorOf) (hfield : Decides ds fieldOf) :
    leftOut ds = (((memberSites fieldOf ds).filter fun m => isClashing m &&
      decide (m.2 ∈ ((memberSites accessorOf ds).filter isClashing).map (·.2))).map (·.1)).map
        Member.breach := by
  have haccessors := (nodup_sites_memberSites haccessor).sublist
    (List.filter_sublist (p := isClashing).map (·.2))
  have hfields := (nodup_sites_memberSites hfield).sublist
    (List.filter_sublist (p := isClashing).map (·.2))
  rw [leftOut, clashing, List.filter_append, repeated_append haccessors (by simp),
    repeated_of_nodup hfields, List.filter_filter, List.map_map]
  simp only [List.append_nil, List.mem_reverse, Bool.and_comm]
  rfl

theorem mem_accessor_sites {sites : List String} :
    sites ∈ ((memberSites accessorOf ds).filter isClashing).map (·.2) ↔
      ∃ a, (∃ d ∈ ds, accessorOf d = a) ∧ isClash a (sitesUnder accessorOf ds a) ∧
        sitesUnder accessorOf ds a = sites := by
  rw [memberSites_eq]
  simp only [List.mem_map, List.mem_filter, mem_distinctKeys, isClashing]
  constructor
  · rintro ⟨_, ⟨⟨a, hkey, rfl⟩, hclash⟩, rfl⟩
    exact ⟨a, hkey, hclash, rfl⟩
  · rintro ⟨a, hkey, hclash, rfl⟩
    exact ⟨_, ⟨⟨a, hkey, rfl⟩, hclash⟩, rfl⟩

/-- Whether an accessor clash has the sites of a field can then be said without any order. -/
theorem field_sites_mem_iff (haccessor : Decides ds accessorOf) (hfield : Decides ds fieldOf)
    (m : Member) :
    sitesUnder fieldOf ds m ∈ ((memberSites accessorOf ds).filter isClashing).map (·.2) ↔
      ∃ a, (∃ d ∈ ds, accessorOf d = a) ∧ isClash a (sitesUnder accessorOf ds a) ∧
        ∀ d ∈ ds, accessorOf d = a ↔ fieldOf d = m := by
  simp only [mem_accessor_sites, sitesUnder_eq_iff haccessor hfield]

theorem leftOut_perm (hperm : ds.Perm es) (haccessor : Decides ds accessorOf)
    (hfield : Decides ds fieldOf) : (leftOut ds).Perm (leftOut es) := by
  rw [leftOut_eq haccessor hfield, leftOut_eq (haccessor.perm hperm) (hfield.perm hperm)]
  refine (picked_members_perm hperm fun m => ?_).map _
  have hsites : (sitesUnder fieldOf ds m ∈
        ((memberSites accessorOf ds).filter isClashing).map (·.2)) ↔
      sitesUnder fieldOf es m ∈ ((memberSites accessorOf es).filter isClashing).map (·.2) := by
    rw [field_sites_mem_iff haccessor hfield,
      field_sites_mem_iff (haccessor.perm hperm) (hfield.perm hperm)]
    simp only [isClash_perm hperm, hperm.mem_iff]
  simp only [isClashing, isClash_perm hperm] at hsites ⊢
  rw [decide_eq_decide.2 hsites]

end Check

/-- Together with the clashes that were left out, the same rules are broken in any order. -/
theorem violations_with_leftOut_perm (hperm : ds.Perm es) :
    (breaches (violations policy ds) ++ leftOut ds).Perm
      (breaches (violations policy es) ++ leftOut es) := by
  rw [List.perm_iff_count]
  intro breach
  have hnames := (breaches_flatMap_perm (f := illegalName) hperm).count_eq breach
  have hlabels := (breaches_flatMap_perm (f := illegalLabelsOf) hperm).count_eq breach
  have hbuckets := (breaches_flatMap_perm (f := Aspect.buckets.check policy) hperm).count_eq breach
  have hduplicates := (breaches_duplicateNames_perm hperm).count_eq breach
  have hidentifiers := (breaches_illegalIdentifiers_perm hperm).count_eq breach
  have hmembers := (duplicateMembers_with_leftOut_perm hperm).count_eq breach
  have hmodules := (breaches_duplicateModules_perm hperm).count_eq breach
  have hreserved := (breaches_reservedModuleNames_perm hperm).count_eq breach
  have hfold : ∀ ds, ds.flatMap (Aspect.buckets.check policy) = illegalBuckets policy ds :=
    fun _ => rfl
  simp only [hfold] at hbuckets
  simp only [violations, breaches_append, List.count_append, illegalNames, illegalLabels]
    at hmembers ⊢
  omega

/-! ## The reports -/

/-- The rules that compiling reports as broken, one for each violation. -/
def kinds (policy : BucketPolicy) (ds : List Declaration) : List Breach :=
  breaches (reported policy ds)

theorem rejected_iff : (∃ vs, compile policy ds = .error vs) ↔ violations policy ds ≠ [] := by
  unfold compile
  cases violations policy ds with
  | nil => simp
  | cons v vs => simp

/-- **Of the order of the declarations only a left out clash can tell.** A reordered set is
rejected if the set is, and the rules reported as broken are the same, as often each, but for the
clashes of members that are left out: they are the same exactly if those left out are. So all other
rules are reported alike, and all rules are where a site stands for one accessor and one field. -/
theorem kinds_perm (policy : BucketPolicy) {ds es : List Declaration} (hperm : ds.Perm es) :
    ((∃ ws, compile policy es = .error ws) ↔ ∃ vs, compile policy ds = .error vs) ∧
      (kinds policy ds ++ leftOut ds).Perm (kinds policy es ++ leftOut es) ∧
      ((kinds policy ds).Perm (kinds policy es) ↔ (leftOut ds).Perm (leftOut es)) ∧
      (∀ breach, (∀ scope member, breach ≠ .duplicateMember scope member) →
        (kinds policy ds).count breach = (kinds policy es).count breach) ∧
      (Decides ds accessorOf → Decides ds fieldOf → (kinds policy ds).Perm (kinds policy es)) := by
  have hall : (kinds policy ds ++ leftOut ds).Perm (kinds policy es ++ leftOut es) := by
    unfold kinds
    rw [reported_eq_violations, reported_eq_violations]
    exact violations_with_leftOut_perm hperm
  have hcount : ∀ breach, (kinds policy ds).count breach + (leftOut ds).count breach =
      (kinds policy es).count breach + (leftOut es).count breach := by
    intro breach
    rw [← List.count_append, ← List.count_append]
    exact hall.count_eq breach
  have hsame : (kinds policy ds).Perm (kinds policy es) ↔ (leftOut ds).Perm (leftOut es) := by
    rw [List.perm_iff_count, List.perm_iff_count]
    refine forall_congr' fun breach => ?_
    have := hcount breach
    omega
  refine ⟨?_, hall, hsame, ?_, ?_⟩
  · rw [rejected_iff, rejected_iff]
    exact not_congr ⟨violations_nil_perm hperm.symm, violations_nil_perm hperm⟩
  · intro breach hother
    have hnone : ∀ ds, (leftOut ds).count breach = 0 := by
      intro ds
      rw [List.count_eq_zero]
      intro hmem
      obtain ⟨m, -, hm⟩ := List.mem_map.1 hmem
      exact hother _ _ hm.symm
    have := hcount breach
    rw [hnone, hnone] at this
    exact this
  · intro haccessor hfield
    exact hsame.2 (leftOut_perm hperm haccessor hfield)

/-- A counter and a gauge at each of two sites. -/
def twiceSample : List Declaration :=
  [⟨"s", "Foo", .counter, some "a", "", [], []⟩, ⟨"s", "foo", .counter, some "b", "", [], []⟩,
   ⟨"s", "Foo", .gauge, some "c", "", [], []⟩, ⟨"s", "foo", .gauge, some "d", "", [], []⟩]

/-- The gauges have changed places. -/
def swappedSample : List Declaration :=
  [⟨"s", "Foo", .counter, some "a", "", [], []⟩, ⟨"s", "foo", .counter, some "b", "", [], []⟩,
   ⟨"s", "foo", .gauge, some "d", "", [], []⟩, ⟨"s", "Foo", .gauge, some "c", "", [], []⟩]

theorem twiceSample_kinds :
    twiceSample.Perm swappedSample ∧
      (kinds .strict twiceSample ++ [Breach.duplicateMember "s" "foo_gauge"]).Perm
        (kinds .strict swappedSample) := by
  have hperm : twiceSample.Perm swappedSample := by decide +kernel
  have hleft : leftOut twiceSample = [Breach.duplicateMember "s" "foo_gauge"] := by decide +kernel
  have hnone : leftOut swappedSample = [] := by decide +kernel
  have hall := (kinds_perm .strict hperm).2.1
  rw [hleft, hnone, List.append_nil] at hall
  exact ⟨hperm, hall⟩

/-- So what is reported as broken can depend on the order. -/
theorem not_all_kinds_perm :
    ¬ ∀ (policy : BucketPolicy) (ds es : List Declaration), ds.Perm es →
      (∃ vs, compile policy ds = .error vs) → (kinds policy ds).Perm (kinds policy es) := by
  intro h
  have hperm : twiceSample.Perm swappedSample := by decide +kernel
  have hrejected : ∃ vs, compile .strict twiceSample = .error vs :=
    rejected_iff.2 (by decide +kernel)
  have hkinds := (h .strict twiceSample swappedSample hperm hrejected).length_eq
  exact absurd hkinds (by decide +kernel)

end MetricFacade
