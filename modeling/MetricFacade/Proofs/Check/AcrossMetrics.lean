import MetricFacade.Check.Names
import MetricFacade.Check.Members
import MetricFacade.Check.Modules
import MetricFacade.Proofs.Check.Spelling
import MetricFacade.Proofs.Grouping
import MetricFacade.Proofs.Text.Path

/-!
# The rules that look at all metrics together

When each of the checks that compare the metrics with each other finds nothing. They group
what they look at, and leave reports out here and there; none of it hides the last report.

Results:

* `duplicateNames_eq_nil`: the names are distinct.
* `illegalIdentifiers_eq_nil`: identifiers and segments are well spelled.
* `duplicateMembers_eq_nil`: accessors and fields are distinct in their namespace.
* `modules_eq_nil`: siblings become distinct modules, none of them reserved.
-/
namespace MetricFacade.Check

open MetricFacade.Metric

variable {ds : List Declaration}

theorem duplicateNames_eq_nil : duplicateNames ds = [] ↔ (ds.map (·.resolvedName)).Nodup := by
  have hsingle : (∀ name users, (name, users) ∈ groupBy textLe (·.resolvedName) ds →
      users.length ≤ 1) ↔ (ds.map (·.resolvedName)).Nodup := groups_single_iff
  rw [← hsingle, duplicateNames, List.flatMap_eq_nil_iff]
  constructor
  · intro h name users hgroup
    have hreport := h _ hgroup
    dsimp only at hreport
    split at hreport
    · cases hreport
    · omega
  · rintro h ⟨name, users⟩ hgroup
    have := h name users hgroup
    dsimp only
    rw [if_neg (by omega)]

/-! ## Identifiers -/

/-- The identifiers of a declaration are well spelled. -/
def IdentifiersFit (d : Declaration) : Prop :=
  IdentifierShape d.ident ∧ ∀ segment ∈ Text.segments d.scope, IdentifierShape segment

theorem illegalIdentifiers_eq_nil : illegalIdentifiers ds = [] ↔ ∀ d ∈ ds, IdentifiersFit d := by
  have huses : illegalIdentifiers ds = [] ↔
      ∀ use ∈ ds.flatMap usesOf, IdentifierShape use.spelling := by
    rw [illegalIdentifiers, List.flatMap_eq_nil_iff]
    constructor
    · intro h use huse
      have hreport := h _ (mem_groupBy.2 ⟨⟨use, huse, rfl⟩, rfl⟩)
      dsimp only at hreport
      split at hreport
      · next hspelled => exact isIdentifier_iff.1 hspelled
      · cases hreport
    · rintro h ⟨spelling, uses⟩ hgroup
      obtain ⟨⟨use, huse, rfl⟩, -⟩ := mem_groupBy.1 hgroup
      dsimp only
      rw [if_pos (isIdentifier_iff.2 (h use huse))]
  rw [huses]
  simp only [List.mem_flatMap, usesOf, List.mem_map, List.mem_append, List.mem_singleton,
    IdentifiersFit]
  constructor
  · intro h d hd
    exact ⟨h ⟨d.ident, d.site⟩ ⟨d, hd, d.ident, .inr rfl, rfl⟩,
      fun segment hs => h ⟨segment, d.site⟩ ⟨d, hd, segment, .inl hs, rfl⟩⟩
  · rintro h use ⟨d, hd, spelling, hs | rfl, rfl⟩
    · exact (h d hd).2 spelling hs
    · exact (h d hd).1

/-! ## Members -/

/-- In each namespace the members under the view are distinct, and none is reserved. -/
structure MembersFit (name : Declaration → String) (ds : List Declaration) : Prop where
  distinct : ds.Pairwise fun d e => d.scope = e.scope → name d ≠ name e
  free : ∀ d ∈ ds, name d ∉ reservedMembers

theorem clash_reported {reported : List (List String)} {members : List (Member × List String)}
    (h : clashes reported members = []) {member : Member} {sites : List String}
    (hmem : (member, sites) ∈ members) (hclash : isClash member sites) : sites ∈ reported := by
  induction members with
  | nil => cases hmem
  | cons first rest ih =>
    obtain ⟨m, s⟩ := first
    rw [clashes] at h
    split at h
    · cases h
    · next hnot =>
      rcases List.mem_cons.1 hmem with heq | hmem
      · cases heq
        by_contra hnew
        exact hnot ⟨hclash, hnew⟩
      · exact ih h hmem

theorem clashes_nil {members : List (Member × List String)}
    (h : ∀ m ∈ members, ¬ isClash m.1 m.2) (reported : List (List String)) :
    clashes reported members = [] := by
  induction members generalizing reported with
  | nil => rfl
  | cons first rest ih =>
    obtain ⟨m, s⟩ := first
    rw [clashes, if_neg (fun hc => h (m, s) (by simp) hc.1)]
    exact ih (fun m hm => h m (List.mem_cons_of_mem _ hm)) reported

/-- A clash whose sites were reported before is left out, so of all clashes the first is
always reported. -/
theorem clashes_eq_nil {members : List (Member × List String)} :
    clashes [] members = [] ↔ ∀ m ∈ members, ¬ isClash m.1 m.2 := by
  constructor
  · rintro h ⟨member, sites⟩ hmem hclash
    cases clash_reported h hmem hclash
  · intro h
    exact clashes_nil h []

theorem memberSites_fit {name : Declaration → String} :
    (∀ m ∈ memberSites (fun d => ⟨d.scope, name d⟩) ds, ¬ isClash m.1 m.2) ↔
      MembersFit name ds := by
  have hdistinct : (ds.map fun d => (⟨d.scope, name d⟩ : Member)).Nodup ↔
      ds.Pairwise fun d e => d.scope = e.scope → name d ≠ name e := by
    rw [List.Nodup, List.pairwise_map]
    simp [Member.mk.injEq]
  have hclash : ∀ (m : Member) (sites : List String),
      ¬ isClash m sites ↔ sites.length ≤ 1 ∧ m.name ∉ reservedMembers := by
    intro m sites
    simp only [isClash, Bool.or_eq_true, decide_eq_true_eq, not_or, not_le, Nat.lt_succ_iff]
  have hgroups : (∀ m ∈ memberSites (fun d => ⟨d.scope, name d⟩) ds, ¬ isClash m.1 m.2) ↔
      ∀ member users, (member, users) ∈ groupBy Member.le (fun d => ⟨d.scope, name d⟩) ds →
        users.length ≤ 1 ∧ member.name ∉ reservedMembers := by
    simp only [memberSites, List.mem_map, Prod.exists, hclash]
    constructor
    · intro h member users hgroup
      simpa using h _ ⟨member, users, hgroup, rfl⟩
    · rintro h m ⟨member, users, hgroup, rfl⟩
      simpa using h member users hgroup
  rw [hgroups]
  constructor
  · intro h
    refine ⟨hdistinct.1 (groups_single_iff.1 fun m users hg => (h m users hg).1), ?_⟩
    intro d hd
    exact (h _ _ (mem_groupBy.2 ⟨⟨d, hd, rfl⟩, rfl⟩)).2
  · intro h member users hgroup
    refine ⟨groups_single_iff.2 (hdistinct.2 h.distinct) member users hgroup, ?_⟩
    obtain ⟨⟨d, hd, rfl⟩, -⟩ := mem_groupBy.1 hgroup
    exact h.free d hd

/-- The member that a declaration's accessor is. -/
def accessorName (d : Declaration) : String :=
  Rust.Ident.member d.ident

/-- The member that a declaration's field is. -/
def fieldName (d : Declaration) : String :=
  Rust.Ident.member (d.ident ++ d.kind.name)

theorem duplicateMembers_eq_nil :
    duplicateMembers ds = [] ↔ MembersFit accessorName ds ∧ MembersFit fieldName ds := by
  rw [duplicateMembers, clashes_eq_nil, List.forall_mem_append]
  exact and_congr memberSites_fit memberSites_fit

/-! ## Modules -/

theorem mem_moduleUses {site : String} {parents rest : List String} {use : ModuleUse} :
    use ∈ moduleUses site parents rest ↔
      ∃ p segment q, rest = p ++ segment :: q ∧
        use = ⟨⟨Text.joinPath (parents ++ p), Rust.Ident.escaped segment⟩, segment, site⟩ := by
  induction rest generalizing parents with
  | nil => simp [moduleUses]
  | cons s rest ih =>
    rw [moduleUses, List.mem_cons, ih]
    constructor
    · rintro (rfl | ⟨p, segment, q, rfl, rfl⟩)
      · exact ⟨[], s, rest, rfl, by rw [List.append_nil]⟩
      · exact ⟨s :: p, segment, q, rfl, by rw [List.append_assoc, List.singleton_append]⟩
    · rintro ⟨p, segment, q, hrest, rfl⟩
      cases p with
      | nil =>
        cases hrest
        exact .inl (by rw [List.append_nil])
      | cons t p =>
        cases hrest
        exact .inr ⟨p, segment, q, rfl, by rw [List.append_assoc, List.singleton_append]⟩

/-- The modules that the namespaces become are distinct where they lie side by side, and none
hides a type. -/
structure ModulesFit (ds : List Declaration) : Prop where
  free : ∀ d ∈ ds, ∀ segment ∈ Text.segments d.scope, segment ∉ reservedModules
  distinct : ∀ d ∈ ds, ∀ e ∈ ds, ∀ parents s t u v,
    Text.segments d.scope = parents ++ s :: u → Text.segments e.scope = parents ++ t :: v →
      Rust.Ident.escaped s = Rust.Ident.escaped t → s = t

theorem escaped_mem_reservedModules {segment : String} :
    Rust.Ident.escaped segment ∈ reservedModules ↔ segment ∈ reservedModules := by
  unfold Rust.Ident.escaped
  split
  · next h =>
    have : ∀ s ∈ Rust.Ident.pathKeywords, s ++ "_" ∉ reservedModules ∧ s ∉ reservedModules := by
      decide
    simp [this segment h]
  · rfl

theorem mem_places {place : Place} {uses : List ModuleUse} :
    (place, uses) ∈ places ds ↔
      (∃ use ∈ ds.flatMap moduleUsesOf, use.place = place) ∧
        uses = (ds.flatMap moduleUsesOf).filter fun use => use.place = place :=
  mem_groupBy

theorem reservedModuleNames_eq_nil :
    reservedModuleNames ds = [] ↔
      ∀ use ∈ ds.flatMap moduleUsesOf, use.place.name ∉ reservedModules := by
  rw [reservedModuleNames, List.map_eq_nil_iff, groupBy_eq_nil, List.flatMap_eq_nil_iff]
  constructor
  · intro h use huse hreserved
    have hgroup := h _ (mem_places.2 ⟨⟨use, huse, rfl⟩, rfl⟩)
    dsimp only at hgroup
    rw [if_pos hreserved, List.filter_eq_nil_iff] at hgroup
    exact hgroup use huse (by simp)
  · rintro h ⟨place, uses⟩ hgroup
    obtain ⟨⟨use, huse, rfl⟩, -⟩ := mem_places.1 hgroup
    dsimp only
    rw [if_neg (h use huse)]

theorem duplicateModules_eq_nil
    (h : ∀ use ∈ ds.flatMap moduleUsesOf, use.place.name ∉ reservedModules) :
    duplicateModules ds = [] ↔
      ∀ a ∈ ds.flatMap moduleUsesOf, ∀ b ∈ ds.flatMap moduleUsesOf,
        a.place = b.place → a.spelling = b.spelling := by
  rw [duplicateModules, List.flatMap_eq_nil_iff]
  constructor
  · intro hnone a ha b hb hplace
    have hgroup := hnone _ (mem_places.2 ⟨⟨a, ha, rfl⟩, rfl⟩)
    dsimp only at hgroup
    split at hgroup
    · cases hgroup
    · next hsame =>
      rw [not_and, one_lt_length_eraseDups] at hsame
      by_contra hne
      refine hsame (h a ha) ⟨a.spelling, ?_, b.spelling, ?_, hne⟩
      · exact List.mem_map.2 ⟨a, List.mem_filter.2 ⟨ha, by simp⟩, rfl⟩
      · exact List.mem_map.2 ⟨b, List.mem_filter.2 ⟨hb, by simp [hplace]⟩, rfl⟩
  · rintro hsame ⟨place, uses⟩ hgroup
    obtain ⟨-, rfl⟩ := mem_places.1 hgroup
    dsimp only
    rw [if_neg]
    rintro ⟨-, hmany⟩
    obtain ⟨x, hx, y, hy, hxy⟩ := one_lt_length_eraseDups.1 hmany
    simp only [List.mem_map, List.mem_filter, decide_eq_true_eq] at hx hy
    obtain ⟨a, ⟨ha, rfl⟩, rfl⟩ := hx
    obtain ⟨b, ⟨hb, hplace⟩, rfl⟩ := hy
    exact hxy (hsame a ha b hb hplace.symm)

theorem plainSegment_of_shape {segment : String} (h : IdentifierShape segment) :
    Text.PlainSegment segment := by
  refine ⟨h.word.ne_empty, fun hcolon => ?_⟩
  exact absurd (h.word.chars ':' hcolon) (by decide)

/-- The checks know the parent of a module by its path, written out. Paths of well spelled
segments are told apart by that. -/
theorem modules_eq_nil (hident : ∀ d ∈ ds, IdentifiersFit d) :
    duplicateModules ds = [] ∧ reservedModuleNames ds = [] ↔ ModulesFit ds := by
  have hplain : ∀ d ∈ ds, ∀ parents rest, Text.segments d.scope = parents ++ rest →
      ∀ segment ∈ parents, Text.PlainSegment segment := by
    intro d hd parents rest hpath segment hs
    exact plainSegment_of_shape ((hident d hd).2 segment (by rw [hpath]; simp [hs]))
  have huse : ∀ use, use ∈ ds.flatMap moduleUsesOf ↔
      ∃ d ∈ ds, ∃ parents segment rest, Text.segments d.scope = parents ++ segment :: rest ∧
        use = ⟨⟨Text.joinPath parents, Rust.Ident.escaped segment⟩, segment, d.site⟩ := by
    simp [List.mem_flatMap, moduleUsesOf, mem_moduleUses]
  constructor
  · rintro ⟨hduplicate, hreserved⟩
    rw [reservedModuleNames_eq_nil] at hreserved
    rw [duplicateModules_eq_nil hreserved] at hduplicate
    refine ⟨?_, ?_⟩
    · intro d hd segment hs
      obtain ⟨parents, rest, hpath⟩ := List.append_of_mem hs
      rw [← escaped_mem_reservedModules]
      exact hreserved _ ((huse _).2 ⟨d, hd, parents, segment, rest, hpath, rfl⟩)
    · intro d hd e he parents s t u v hs ht hst
      refine hduplicate _ ((huse _).2 ⟨d, hd, parents, s, u, hs, rfl⟩)
        _ ((huse _).2 ⟨e, he, parents, t, v, ht, rfl⟩) ?_
      rw [hst]
  · rintro ⟨hfree, hdistinct⟩
    have hreserved : ∀ use ∈ ds.flatMap moduleUsesOf, use.place.name ∉ reservedModules := by
      intro use hu
      obtain ⟨d, hd, parents, segment, rest, hpath, rfl⟩ := (huse use).1 hu
      rw [escaped_mem_reservedModules]
      exact hfree d hd segment (by rw [hpath]; simp)
    refine ⟨(duplicateModules_eq_nil hreserved).2 ?_, reservedModuleNames_eq_nil.2 hreserved⟩
    intro a ha b hb hplace
    obtain ⟨d, hd, p, s, u, hs, rfl⟩ := (huse a).1 ha
    obtain ⟨e, he, q, t, v, ht, rfl⟩ := (huse b).1 hb
    simp only [Place.mk.injEq] at hplace
    have hpq := Text.joinPath_injective (hplain d hd p _ hs) (hplain e he q _ ht) hplace.1
    subst hpq
    exact hdistinct d hd e he p s t u v hs ht hplace.2

end MetricFacade.Check
