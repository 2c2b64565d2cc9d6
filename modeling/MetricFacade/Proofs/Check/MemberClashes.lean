import MetricFacade.Proofs.LeftOut
import MetricFacade.Proofs.Rules
import MetricFacade.Proofs.Text.ByteOrder
import MetricFacade.Proofs.Text.SnakeCase

/-!
# Members that clash

A member can be looked up under one text: its namespace, `::` and its name. Namespaces may hold
anything, colons at their end included, but a name is in snake case, which leaves no colon of
whatever text it was made from. So the last `::` of the text is the one that was put there, and
looking members up under their texts is looking them up by namespace and name.

A clash is left out if an earlier one has the same sites, and only then.

Results:

* `ofPath_path`: a member is read back from its text.
* `duplicateMembersByPath_eq`: grouping by the texts reports the same.
* `clashes_told`: what is reported of a list of members, and what is left out.
* `memberClashes_reported`: every report is of one member, and every clash is accounted for.
-/
namespace MetricFacade

open Check MetricFacade.Metric

variable {policy : BucketPolicy} {ds : List Declaration}

namespace Check

/-! ## Members as texts -/

/-- What stands before and behind the last `::`. -/
def splitLast? : List Char → Option (List Char × List Char)
  | [] => none
  | c :: rest =>
    match splitLast? rest with
    | some (before, behind) => some (c :: before, behind)
    | none => if c = ':' ∧ rest.head? = some ':' then some ([], rest.tail) else none

/-- The member that a text is read as. -/
def Member.ofPath (path : String) : Member :=
  match splitLast? path.toList with
  | some (scope, name) => ⟨String.ofList scope, String.ofList name⟩
  | none => ⟨"", path⟩

/-- The members under one view of the declarations, looked up under their texts. -/
def pathSites (view : Declaration → Member) (ds : List Declaration) :
    List (Member × List String) :=
  (groupBy textLe (fun d => (view d).path) ds).map fun (path, users) =>
    (Member.ofPath path, users.map (·.site))

/-- The check of the members with texts for members. -/
def duplicateMembersByPath (ds : List Declaration) : List Violation :=
  clashes [] (pathSites accessorOf ds ++ pathSites fieldOf ds)

theorem splitLast?_eq_none {cs : List Char} (h : ':' ∉ cs) : splitLast? cs = none := by
  induction cs with
  | nil => rfl
  | cons c rest ih =>
    rw [List.mem_cons, not_or] at h
    rw [splitLast?, ih h.2]
    simp [Ne.symm h.1]

theorem splitLast?_append (scope : List Char) {name : List Char} (h : ':' ∉ name) :
    splitLast? (scope ++ ':' :: ':' :: name) = some (scope, name) := by
  induction scope with
  | nil =>
    -- the second colon cannot be the first of a mark
    have hnext : name.head? ≠ some ':' := fun hhead => h (List.mem_of_mem_head? hhead)
    have hinner : splitLast? (':' :: name) = none := by
      rw [splitLast?, splitLast?_eq_none h]
      simp [hnext]
    rw [List.nil_append, splitLast?, hinner]
    rfl
  | cons c scope ih => rw [List.cons_append, splitLast?, ih]

theorem Member.toList_path (m : Member) :
    m.path.toList = m.scope.toList ++ ':' :: ':' :: m.name.toList := by
  simp [Member.path]

/-- Whatever its namespace, a member is read back if its name has no colon. -/
theorem ofPath_path {m : Member} (h : ':' ∉ m.name.toList) : Member.ofPath m.path = m := by
  rw [Member.ofPath, m.toList_path, splitLast?_append _ h]
  simp

theorem Member.le_total (a b : Member) : a.le b ∨ b.le a :=
  textLe_total a.path b.path

theorem Member.le_trans (a b c : Member) (hab : a.le b) (hbc : b.le c) : a.le c :=
  textLe_trans a.path b.path c.path hab hbc

/-! ## Names of members -/

/-- Snake case leaves no colon, and a path keyword is made longer by an underscore. -/
theorem colon_notMem_member (name : String) : ':' ∉ (Rust.Ident.member name).toList := by
  have hsnake : ':' ∉ (Text.snakeCase name).toList :=
    Text.mark_notMem_snakeCase (by decide) (by decide) name
  unfold Rust.Ident.member Rust.Ident.escaped
  split
  · rw [String.toList_append, List.mem_append, not_or]
    exact ⟨hsnake, by decide⟩
  · exact hsnake

/-- The names of a view are members in snake case. -/
def Plain (view : Declaration → Member) : Prop :=
  ∀ d, ':' ∉ (view d).name.toList

theorem plain_accessorOf : Plain accessorOf := by
  intro d
  dsimp only [accessorOf]
  exact colon_notMem_member _

theorem plain_fieldOf : Plain fieldOf := by
  intro d
  dsimp only [fieldOf]
  exact colon_notMem_member _

theorem Plain.eq_of_path {view : Declaration → Member} (h : Plain view) {d e : Declaration}
    (hpath : (view d).path = (view e).path) : view d = view e := by
  rw [← ofPath_path (h d), hpath, ofPath_path (h e)]

theorem pathSites_eq {view : Declaration → Member} (h : Plain view) (ds : List Declaration) :
    pathSites view ds = memberSites view ds := by
  have hnamed : groupBy textLe (fun d => (view d).path) ds =
      (groupBy Member.le view ds).map fun group => (group.1.path, group.2) :=
    groupBy_named Member.path (fun _ _ => rfl) fun d _ e _ => h.eq_of_path
  unfold pathSites memberSites
  rw [hnamed, List.map_map]
  refine List.map_congr_left fun group hgroup => ?_
  obtain ⟨m, users⟩ := group
  obtain ⟨⟨d, -, rfl⟩, -⟩ := mem_groupBy.1 hgroup
  simp only [Function.comp_apply, ofPath_path (h d)]

theorem duplicateMembersByPath_eq (ds : List Declaration) :
    duplicateMembersByPath ds = duplicateMembers ds := by
  rw [duplicateMembersByPath, pathSites_eq plain_accessorOf, pathSites_eq plain_fieldOf,
    duplicateMembers]

end Check

/-! ## Slots -/

/-- What a declaration defines in the facade of its namespace. -/
inductive View where
  | accessor
  | field
  deriving Repr, DecidableEq

namespace View

def member : View → Declaration → Member
  | accessor => accessorOf
  | field => fieldOf

theorem plain : ∀ view : View, Plain view.member
  | accessor => plain_accessorOf
  | field => plain_fieldOf

end View

/-- One accessor or one field of one namespace. -/
structure Slot where
  view : View
  scope : String
  name : String
  deriving Repr, DecidableEq

namespace Slot

def path (s : Slot) : String :=
  s.scope ++ "::" ++ s.name

/-- The sites of the declarations that define the slot, in order. -/
def sites (ds : List Declaration) (s : Slot) : List String :=
  (ds.filter fun d => d.scope = s.scope ∧ (s.view.member d).name = s.name).map (·.site)

/-- Several declarations define the slot, or one does and a constructor has its name. -/
def Clashes (ds : List Declaration) (s : Slot) : Prop :=
  2 ≤ (s.sites ds).length ∨ s.name ∈ reservedMembers ∧ s.sites ds ≠ []

/-- Accessors go before fields, and those of one view by the bytes of their paths. -/
def Before (s t : Slot) : Prop :=
  s.view = .accessor ∧ t.view = .field ∨
    s.view = t.view ∧ Text.bytes s.path < Text.bytes t.path

/-- What is to be reported of a slot with clashing declarations. -/
def violation (ds : List Declaration) (s : Slot) : Violation :=
  ⟨.duplicateMember s.scope s.name, s.sites ds⟩

/-- The slot that the member is under a view. -/
def of (view : View) (m : Member) : Slot :=
  ⟨view, m.scope, m.name⟩

theorem sites_of (view : View) (m : Member) :
    (of view m).sites ds = sitesUnder view.member ds m := by
  have hscope : ∀ d, (view.member d).scope = d.scope := by
    cases view with
    | accessor => exact fun _ => rfl
    | field => exact fun _ => rfl
  obtain ⟨scope, name⟩ := m
  unfold sites sitesUnder of
  congr 1
  refine List.filter_congr fun d _ => decide_eq_decide.2 ?_
  rw [← hscope d]
  generalize view.member d = defined
  cases defined
  rw [Member.mk.injEq]

/-- The slots of a view that are defined, by ascending path. -/
def under (view : View) (ds : List Declaration) : List Slot :=
  (distinctKeys Member.le (ds.map view.member)).map (of view)

/-- All slots that are defined, in the order in which they are looked at. -/
def all (ds : List Declaration) : List Slot :=
  under .accessor ds ++ under .field ds

theorem view_of_mem_under {view : View} {s : Slot} (h : s ∈ under view ds) : s.view = view := by
  obtain ⟨m, -, rfl⟩ := List.mem_map.1 h
  rfl

theorem mem_all {s : Slot} : s ∈ all ds ↔ s.sites ds ≠ [] := by
  have hdefined : ∀ view m, m ∈ distinctKeys Member.le (ds.map view.member) ↔
      (of view m).sites ds ≠ [] := by
    intro view m
    rw [mem_distinctKeys, sites_of, sitesUnder, ne_eq, List.map_eq_nil_iff, List.filter_eq_nil_iff]
    simp
  have hunder : ∀ view, s ∈ under view ds ↔ s.view = view ∧ s.sites ds ≠ [] := by
    intro view
    constructor
    · intro h
      obtain ⟨m, hm, rfl⟩ := List.mem_map.1 h
      exact ⟨rfl, (hdefined view m).1 hm⟩
    · rintro ⟨rfl, h⟩
      exact List.mem_map.2 ⟨⟨s.scope, s.name⟩, (hdefined s.view ⟨s.scope, s.name⟩).2 h, rfl⟩
  rw [all, List.mem_append, hunder, hunder, ← or_and_right]
  refine and_iff_right ?_
  cases s.view with
  | accessor => exact .inl rfl
  | field => exact .inr rfl

theorem pairwise_under (view : View) (ds : List Declaration) :
    (under view ds).Pairwise Before := by
  rw [under, List.pairwise_map]
  refine (distinctKeys_ascending Member.le_total Member.le_trans _).imp_of_mem ?_
  rintro a b ha hb ⟨hle, hne⟩
  obtain ⟨d, -, rfl⟩ := List.mem_map.1 (mem_distinctKeys.1 ha)
  obtain ⟨e, -, rfl⟩ := List.mem_map.1 (mem_distinctKeys.1 hb)
  refine .inr ⟨rfl, Text.bytes_lt_iff.2 ?_⟩
  exact lt_of_le_of_ne (of_decide_eq_true hle) fun hpath => hne (view.plain.eq_of_path hpath)

theorem pairwise_all (ds : List Declaration) : (all ds).Pairwise Before := by
  refine List.pairwise_append.2 ⟨pairwise_under .accessor ds, pairwise_under .field ds, ?_⟩
  intro s hs t ht
  exact .inl ⟨view_of_mem_under hs, view_of_mem_under ht⟩

/-- The members that the check goes through. -/
theorem duplicateMembers_eq :
    duplicateMembers ds =
      clashes [] ((all ds).map fun s => (⟨s.scope, s.name⟩, s.sites ds)) := by
  have hview : ∀ view : View, memberSites view.member ds =
      (under view ds).map fun s => (⟨s.scope, s.name⟩, s.sites ds) := by
    intro view
    rw [memberSites_eq, under, List.map_map]
    refine List.map_congr_left fun m _ => ?_
    rw [Function.comp_apply, sites_of]
    rfl
  have haccessors : memberSites accessorOf ds = _ := hview .accessor
  have hfields : memberSites fieldOf ds = _ := hview .field
  rw [duplicateMembers, haccessors, hfields, ← List.map_append]
  rfl

theorem clashes_iff {s : Slot} :
    s.Clashes ds ↔ s ∈ all ds ∧ isClash ⟨s.scope, s.name⟩ (s.sites ds) := by
  rw [mem_all, Clashes, isClash, Bool.or_eq_true, decide_eq_true_eq, decide_eq_true_eq]
  constructor
  · rintro (hmany | ⟨hreserved, hsome⟩)
    · refine ⟨?_, .inl hmany⟩
      rintro hnone
      rw [hnone] at hmany
      cases hmany
    · exact ⟨hsome, .inr hreserved⟩
  · rintro ⟨hsome, hmany | hreserved⟩
    · exact .inl hmany
    · exact .inr ⟨hreserved, hsome⟩

/-- A run over slots in some order: the clashes whose sites were `reported` before are left out,
and so are those with the sites of a clash that is told earlier in the run. -/
theorem clashes_told (ds : List Declaration) {R : Slot → Slot → Prop} {slots : List Slot} (hR : slots.Pairwise R)
    (reported : List (List String)) :
    ∃ told : List Slot, told.Sublist slots ∧
      clashes reported (slots.map fun s => (⟨s.scope, s.name⟩, s.sites ds)) =
        told.map (violation ds) ∧
      (∀ s ∈ told, isClash ⟨s.scope, s.name⟩ (s.sites ds)) ∧
      ∀ s ∈ slots, isClash ⟨s.scope, s.name⟩ (s.sites ds) →
        s ∈ told ∨ s.sites ds ∈ reported ∨ ∃ t ∈ told, R t s ∧ t.sites ds = s.sites ds := by
  induction slots generalizing reported with
  | nil => exact ⟨[], List.Sublist.refl _, rfl, by simp, by simp⟩
  | cons first rest ih =>
    obtain ⟨hfirst, hrest⟩ := List.pairwise_cons.1 hR
    by_cases htold : isClash ⟨first.scope, first.name⟩ (first.sites ds) ∧
        first.sites ds ∉ reported
    · obtain ⟨told, hsub, heq, hclash, hall⟩ := ih hrest (first.sites ds :: reported)
      refine ⟨first :: told, hsub.cons_cons first, ?_, List.forall_mem_cons.2 ⟨htold.1, hclash⟩, ?_⟩
      · rw [List.map_cons, clashes, if_pos htold, heq]
        rfl
      · rw [List.forall_mem_cons]
        refine ⟨fun _ => .inl List.mem_cons_self, fun s hs hsclash => ?_⟩
        rcases hall s hs hsclash with hin | hold | ⟨t, ht, htR, hsame⟩
        · exact .inl (List.mem_cons_of_mem first hin)
        · rcases List.mem_cons.1 hold with hsame | hold
          · exact .inr (.inr ⟨first, List.mem_cons_self, hfirst s hs, hsame.symm⟩)
          · exact .inr (.inl hold)
        · exact .inr (.inr ⟨t, List.mem_cons_of_mem first ht, htR, hsame⟩)
    · obtain ⟨told, hsub, heq, hclash, hall⟩ := ih hrest reported
      refine ⟨told, hsub.cons first, ?_, hclash, ?_⟩
      · rw [List.map_cons, clashes, if_neg htold, heq]
      · rw [List.forall_mem_cons]
        refine ⟨fun hsclash => .inr (.inl ?_), hall⟩
        by_contra hnew
        exact htold ⟨hsclash, hnew⟩

end Slot

/-- **Every clash of members is reported, unless an earlier one has its sites.** Compiling reports
what the check of the members finds, and after it what the check of the modules finds. The check of
the members tells of slots, accessors by ascending path and then fields by ascending path: of each
it gives the sites of exactly the declarations of that namespace whose accessor, or field, has that
name. It tells of clashing slots only, and of all of them but those with the sites of one told
before. To look the members up under their paths, and to read namespace and name off again behind
the last `::`, makes no difference. -/
theorem memberClashes_reported (policy : BucketPolicy) (ds : List Declaration) :
    duplicateMembersByPath ds = duplicateMembers ds ∧
      against .duplicateMember (reported policy ds) = duplicateMembers ds ++ duplicateModules ds ∧
      ∃ told : List Slot,
        duplicateMembers ds = told.map (Slot.violation ds) ∧
        told.Pairwise Slot.Before ∧
        (∀ s ∈ told, s.Clashes ds) ∧
        ∀ s : Slot, s.Clashes ds →
          s ∈ told ∨ ∃ t ∈ told, t.Before s ∧ t.sites ds = s.sites ds := by
  refine ⟨duplicateMembersByPath_eq ds, against_duplicateMember, ?_⟩
  obtain ⟨told, hsub, heq, hclash, hall⟩ :=
    Slot.clashes_told ds (Slot.pairwise_all ds) []
  refine ⟨told, Slot.duplicateMembers_eq.trans heq, (Slot.pairwise_all ds).sublist hsub, ?_, ?_⟩
  · intro s hs
    exact Slot.clashes_iff.2 ⟨hsub.subset hs, hclash s hs⟩
  · intro s hs
    obtain ⟨hslot, hsclash⟩ := Slot.clashes_iff.1 hs
    exact (hall s hslot hsclash).imp_right fun h => h.resolve_left (by simp)

end MetricFacade
