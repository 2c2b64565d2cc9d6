import Mathlib.Data.List.Triplewise
import MetricFacade.Proofs.Rules
import MetricFacade.Proofs.Text.ByteOrder

/-!
# Spellings that no identifier may have

Two checks report illegal identifiers. One looks for misspelled identifiers and segments, the other
for segments that name a type which generated code needs. No spelling is illegal for both reasons,
and either check groups the uses by spelling, so a spelling is reported once.

The sites of a misspelled one stand in the order of the declarations, and those of a module in the
order of the places where it lies. Sites are repeated where declarations share one.

Results:

* `dropRepeats_flatMap_congr`, `eraseDups_dropRepeats`: how far dropping neighbours goes.
* `illegalIdentifiers_eq`: what is reported of misspelled identifiers and segments.
* `reservedModuleNames_eq`: what is reported of segments that hide a type.
* `illegalSpellings_reported`: both together.
-/
namespace MetricFacade

open Check MetricFacade.Metric

variable {policy : BucketPolicy} {ds : List Declaration}

/-! ## Dropping repeats -/

namespace Check

/-- Of what comes behind a site only its first neighbour matters. -/
theorem dropRepeats_cons (site : String) (sites : List String) :
    dropRepeats (site :: sites) =
      if (dropRepeats sites).head? = some site then dropRepeats sites
      else site :: dropRepeats sites := by
  have hhead : (dropRepeats sites).head? = sites.head? := by
    fun_induction dropRepeats sites with
    | case1 a rest ih => rw [ih, List.head?_cons, List.head?_cons]
    | case2 a b rest _ _ => rfl
    | case3 sites _ => rfl
  rw [hhead]
  cases sites with
  | nil => rfl
  | cons b rest =>
    rw [dropRepeats, List.head?_cons]
    by_cases hsame : site = b
    · rw [if_pos hsame, if_pos (congrArg some hsame.symm)]
    · rw [if_neg hsame, if_neg fun h => hsame (Option.some.inj h).symm]

theorem dropRepeats_cons_congr {sites sites' : List String} (site : String)
    (h : dropRepeats sites = dropRepeats sites') :
    dropRepeats (site :: sites) = dropRepeats (site :: sites') := by
  rw [dropRepeats_cons, dropRepeats_cons, h]

theorem dropRepeats_append_congr {front front' back back' : List String}
    (hfront : dropRepeats front = dropRepeats front') (hback : dropRepeats back = dropRepeats back') :
    dropRepeats (front ++ back) = dropRepeats (front' ++ back') := by
  have hright : ∀ front, dropRepeats (front ++ back) = dropRepeats (front ++ back') := by
    intro front
    induction front with
    | nil => exact hback
    | cons site front ih => exact dropRepeats_cons_congr site ih
  have hleft : ∀ front, dropRepeats (dropRepeats front ++ back') = dropRepeats (front ++ back') := by
    intro front
    fun_induction dropRepeats front with
    | case1 a rest ih =>
      rw [ih, List.cons_append, List.cons_append, List.cons_append, dropRepeats, if_pos rfl]
    | case2 a b rest _ ih => exact dropRepeats_cons_congr a ih
    | case3 sites _ => rfl
  rw [hright front, ← hleft front, hfront, hleft front']

theorem dropRepeats_flatMap_congr {α : Type} {f g : α → List String} {l : List α}
    (h : ∀ a ∈ l, dropRepeats (f a) = dropRepeats (g a)) :
    dropRepeats (l.flatMap f) = dropRepeats (l.flatMap g) := by
  induction l with
  | nil => rfl
  | cons a l ih =>
    rw [List.forall_mem_cons] at h
    exact dropRepeats_append_congr h.1 (ih h.2)

/-- Where each element has one site, and some have it several times. -/
theorem dropRepeats_flatMap_sites {α : Type} {f : α → List String} {site : α → String}
    {p : α → Prop} [DecidablePred p] {l : List α} (hsite : ∀ a ∈ l, ∀ x ∈ f a, x = site a)
    (hp : ∀ a ∈ l, f a ≠ [] ↔ p a) :
    dropRepeats (l.flatMap f) = dropRepeats ((l.filter fun a => p a).map site) := by
  have hconstant : ∀ (c : String) (sites : List String), sites ≠ [] → (∀ x ∈ sites, x = c) →
      dropRepeats sites = [c] := by
    intro c sites hne hall
    fun_induction dropRepeats sites with
    | case1 a rest ih => exact ih (by simp) fun x hx => hall x (List.mem_cons_of_mem a hx)
    | case2 a b rest hab _ => exact absurd ((hall a (by simp)).trans (hall b (by simp)).symm) hab
    | case3 sites hshort =>
      rcases sites with _ | ⟨a, _ | ⟨b, rest⟩⟩
      · exact absurd rfl hne
      · rw [hall a (by simp)]
      · exact absurd rfl (hshort a b rest)
  rw [List.map_eq_flatMap, ← flatMap_guarded p]
  refine dropRepeats_flatMap_congr fun a ha => ?_
  by_cases hpa : p a
  · rw [if_pos hpa, hconstant (site a) (f a) ((hp a ha).2 hpa) (hsite a ha)]
    rfl
  · rw [if_neg hpa, not_not.1 (mt (hp a ha).1 hpa)]

theorem eraseDups_dropRepeats (sites : List String) :
    (dropRepeats sites).eraseDups = sites.eraseDups := by
  fun_induction dropRepeats sites with
  | case1 a rest ih =>
    rw [ih, List.eraseDups_cons, List.eraseDups_cons, List.filter_cons_of_neg (by simp)]
  | case2 a b rest _ ih =>
    rw [List.eraseDups_cons, List.eraseDups_cons, eraseDups_filter, eraseDups_filter, ih]
  | case3 sites _ => rfl

end Check

/-- Equal sites stand side by side. -/
def Together (sites : List String) : Prop :=
  sites.Triplewise fun a b c => a = c → a = b

theorem Together.nodup_dropRepeats {sites : List String} (h : Together sites) :
    (dropRepeats sites).Nodup := by
  fun_induction dropRepeats sites with
  | case1 a rest ih => exact ih (List.triplewise_cons.1 h).2
  | case2 a b rest hab ih =>
    obtain ⟨hfirst, hrest⟩ := List.triplewise_cons.1 h
    -- the next site is another one, so the first does not come again
    refine List.nodup_cons.2 ⟨fun hagain => ?_, ih hrest⟩
    rcases List.mem_cons.1 (mem_of_mem_dropRepeats hagain) with hsame | hlater
    · exact hab hsame
    · exact hab ((List.pairwise_cons.1 hfirst).1 a hlater rfl)
  | case3 sites hshort =>
    rcases sites with _ | ⟨a, _ | ⟨b, rest⟩⟩
    · exact List.nodup_nil
    · exact List.nodup_singleton a
    · exact absurd rfl (hshort a b rest)

/-! ## Misspelled identifiers and segments -/

/-- The declarations that use a spelling, in the namespace or as the identifier. -/
def usersOf (ds : List Declaration) (spelling : String) : List Declaration :=
  ds.filter fun d => spelling ∈ Text.segments d.scope ∨ d.ident = spelling

namespace Check

theorem spelling_mem_usesOf {d : Declaration} {spelling : String} :
    (∃ use ∈ usesOf d, use.spelling = spelling) ↔
      spelling ∈ Text.segments d.scope ∨ d.ident = spelling := by
  simp [usesOf, eq_comm]

/-- The sites at which a spelling is used, a site as often as it has uses in a row. -/
theorem dropRepeats_uses (spelling : String) :
    dropRepeats (((ds.flatMap usesOf).filter fun use => use.spelling = spelling).map (·.site)) =
      dropRepeats ((usersOf ds spelling).map (·.site)) := by
  rw [List.filter_flatMap, List.map_flatMap]
  refine dropRepeats_flatMap_sites ?_ ?_
  · intro d _ site hsite
    obtain ⟨use, huse, rfl⟩ := List.mem_map.1 hsite
    obtain ⟨spelling, -, rfl⟩ := List.mem_map.1 (List.mem_filter.1 huse).1
    rfl
  · intro d _
    rw [← spelling_mem_usesOf, ne_eq, List.map_eq_nil_iff, List.filter_eq_nil_iff]
    simp

/-- The spellings that occur, ascending. -/
def spellings (ds : List Declaration) : List String :=
  distinctKeys textLe ((ds.flatMap usesOf).map (·.spelling))

theorem mem_spellings {spelling : String} : spelling ∈ spellings ds ↔ usersOf ds spelling ≠ [] := by
  rw [spellings, mem_distinctKeys, usersOf, ne_eq, List.filter_eq_nil_iff]
  simp only [decide_eq_true_eq, ← spelling_mem_usesOf, List.mem_map, List.mem_flatMap]
  push Not
  constructor
  · rintro ⟨use, ⟨d, hd, huse⟩, rfl⟩
    exact ⟨d, hd, use, huse, rfl⟩
  · rintro ⟨d, hd, use, huse, rfl⟩
    exact ⟨use, ⟨d, hd, huse⟩, rfl⟩

theorem illegalIdentifiers_eq :
    illegalIdentifiers ds =
      ((spellings ds).filter fun spelling => ¬ isIdentifier spelling).map fun spelling =>
        ⟨.illegalIdentifier spelling, dropRepeats ((usersOf ds spelling).map (·.site))⟩ := by
  have hguarded := flatMap_guarded (fun spelling => ¬ isIdentifier spelling) (fun spelling =>
    [(⟨.illegalIdentifier spelling, dropRepeats ((usersOf ds spelling).map (·.site))⟩ : Violation)])
    (spellings ds)
  rw [List.map_eq_flatMap, ← hguarded, illegalIdentifiers, groupBy, List.flatMap_map]
  refine List.flatMap_congr fun spelling _ => ?_
  dsimp only
  rw [dropRepeats_uses, ite_not]

/-- A site that two declarations share is told twice if another user stands in between. -/
example : illegalIdentifiers
    [⟨"9th", "A", .counter, some "a", "", [], []⟩, ⟨"9th", "B", .counter, some "b", "", [], []⟩,
     ⟨"9th", "A", .counter, some "c", "", [], []⟩] =
    [⟨.illegalIdentifier "9th", ["9th::A", "9th::B", "9th::A"]⟩] := by decide +kernel

end Check

/-! ## Segments that hide a type -/

/-- A segment of the namespace has this spelling, and those before it make this path. -/
def LiesUnder (parent segment : String) (d : Declaration) : Prop :=
  ∃ depth < (Text.segments d.scope).length,
    (Text.segments d.scope)[depth]? = some segment ∧
      Text.joinPath ((Text.segments d.scope).take depth) = parent

instance (parent segment : String) : DecidablePred (LiesUnder parent segment) := fun d =>
  inferInstanceAs (Decidable (∃ depth < (Text.segments d.scope).length, _ ∧ _))

theorem liesUnder_iff {parent segment : String} {d : Declaration} :
    LiesUnder parent segment d ↔
      ∃ before behind, Text.segments d.scope = before ++ segment :: behind ∧
        Text.joinPath before = parent := by
  constructor
  · rintro ⟨depth, hdepth, hsegment, hparent⟩
    refine ⟨_, (Text.segments d.scope).drop (depth + 1), ?_, hparent⟩
    rw [List.getElem?_eq_getElem hdepth, Option.some_inj] at hsegment
    rw [← hsegment, List.getElem_cons_drop, List.take_append_drop]
  · rintro ⟨before, behind, hsegments, hparent⟩
    refine ⟨before.length, ?_, ?_, ?_⟩
    · simp [hsegments]
    · simp [hsegments]
    · simp [hsegments, hparent]

theorem exists_liesUnder {segment : String} {d : Declaration} :
    (∃ parent, LiesUnder parent segment d) ↔ segment ∈ Text.segments d.scope := by
  rw [List.mem_iff_append]
  simp [liesUnder_iff]

namespace Check

theorem Place.le_total (a b : Place) : a.le b ∨ b.le a := by
  unfold Place.le
  by_cases h : a.parent = b.parent
  · rw [if_pos h, if_pos h.symm]
    exact textLe_total a.name b.name
  · rw [if_neg h, if_neg (Ne.symm h)]
    exact textLe_total a.parent b.parent

theorem Place.le_iff {a b : Place} :
    a.le b ↔ a.parent < b.parent ∨ a.parent = b.parent ∧ a.name ≤ b.name := by
  unfold Place.le textLe
  by_cases h : a.parent = b.parent
  · simp [h]
  · simp [h, le_iff_lt_or_eq]

theorem Place.le_trans (a b c : Place) (hab : a.le b) (hbc : b.le c) : a.le c := by
  rw [Place.le_iff] at hab hbc ⊢
  rcases hab with hab | ⟨hparent, hab⟩
  · rcases hbc with hbc | ⟨hsame, -⟩
    · exact .inl (hab.trans hbc)
    · exact .inl (hsame ▸ hab)
  · rcases hbc with hbc | ⟨hsame, hbc⟩
    · exact .inl (hparent ▸ hbc)
    · exact .inr ⟨hparent.trans hsame, hab.trans hbc⟩

/-- A module with a reserved name is spelled as it is named. -/
theorem escaped_eq_iff {name segment : String} (hname : name ∈ reservedModules) :
    Rust.Ident.escaped segment = name ↔ segment = name := by
  have hkeyword : ∀ s ∈ reservedModules, s ∉ Rust.Ident.pathKeywords := by decide
  have hfixed : ∀ s ∈ reservedModules, Rust.Ident.escaped s = s := fun s hs =>
    if_neg (hkeyword s hs)
  constructor
  · rintro rfl
    exact (hfixed segment (escaped_mem_reservedModules.1 hname)).symm
  · rintro rfl
    exact hfixed segment hname

theorem place_mem_moduleUsesOf {parent name : String} (hname : name ∈ reservedModules)
    {d : Declaration} :
    (∃ use ∈ moduleUsesOf d, use.place = ⟨parent, name⟩) ↔ LiesUnder parent name d := by
  simp only [moduleUsesOf, mem_moduleUses, liesUnder_iff, List.nil_append]
  constructor
  · rintro ⟨_, ⟨before, segment, behind, hsegments, rfl⟩, hplace⟩
    obtain ⟨hparent, hsegment⟩ := Place.mk.inj hplace
    obtain rfl := (escaped_eq_iff hname).1 hsegment
    exact ⟨before, behind, hsegments, hparent⟩
  · rintro ⟨before, behind, hsegments, rfl⟩
    exact ⟨_, ⟨before, name, behind, hsegments, rfl⟩,
      congrArg (Place.mk (Text.joinPath before)) ((escaped_eq_iff hname).2 rfl)⟩

/-- The places of modules, ascending. -/
def placesOf (ds : List Declaration) : List Place :=
  distinctKeys Place.le ((ds.flatMap moduleUsesOf).map (·.place))

/-- The paths under which modules of a name lie, ascending. -/
def parentsOf (ds : List Declaration) (name : String) : List String :=
  ((placesOf ds).filter fun place => place.name = name).map (·.parent)

theorem parentsOf_ascending (ds : List Declaration) (name : String) :
    (parentsOf ds name).Pairwise (· < ·) := by
  rw [parentsOf, List.pairwise_map, List.pairwise_filter]
  refine (distinctKeys_ascending Place.le_total Place.le_trans _).imp ?_
  rintro ⟨parent, a⟩ ⟨parent', b⟩ ⟨hle, hne⟩ ha hb
  obtain rfl : a = name := of_decide_eq_true ha
  obtain rfl : b = a := of_decide_eq_true hb
  rcases Place.le_iff.1 hle with hlt | ⟨hparent, -⟩
  · exact hlt
  · exact absurd (congrArg (Place.mk · b) hparent) hne

theorem filter_placesOf (ds : List Declaration) (name : String) :
    ((placesOf ds).filter fun place => place.name = name) =
      (parentsOf ds name).map fun parent => ⟨parent, name⟩ := by
  rw [parentsOf, List.map_map]
  refine ((List.map_congr_left fun place hplace => ?_).trans (List.map_id _)).symm
  obtain rfl : place.name = name := of_decide_eq_true (List.mem_filter.1 hplace).2
  rfl

theorem mem_parentsOf {parent name : String} (hname : name ∈ reservedModules) :
    parent ∈ parentsOf ds name ↔ ∃ d ∈ ds, LiesUnder parent name d := by
  have hplace : parent ∈ parentsOf ds name ↔ ⟨parent, name⟩ ∈ placesOf ds := by
    simp only [parentsOf, List.mem_map, List.mem_filter, decide_eq_true_eq]
    constructor
    · rintro ⟨place, ⟨hplace, rfl⟩, rfl⟩
      exact hplace
    · intro hplace
      exact ⟨_, ⟨hplace, rfl⟩, rfl⟩
  rw [hplace, placesOf, mem_distinctKeys]
  simp only [List.mem_map, List.mem_flatMap, ← place_mem_moduleUsesOf hname]
  constructor
  · rintro ⟨use, ⟨d, hd, huse⟩, hplace⟩
    exact ⟨d, hd, use, huse, hplace⟩
  · rintro ⟨d, hd, use, huse, hplace⟩
    exact ⟨use, ⟨d, hd, huse⟩, hplace⟩

/-- The uses of modules that hide a type, place by place. -/
def hidingUses (ds : List Declaration) : List ModuleUse :=
  ((placesOf ds).filter fun place => place.name ∈ reservedModules).flatMap fun place =>
    (ds.flatMap moduleUsesOf).filter fun use => use.place = place

/-- The sites at which modules of a name are used, place by place, each site once. -/
def hidingSites (ds : List Declaration) (name : String) : List String :=
  ((parentsOf ds name).flatMap fun parent =>
    (ds.filter fun d => LiesUnder parent name d).map (·.site)).eraseDups

/-- All uses of a place have its name, so a name picks places. -/
theorem filter_hidingUses {name : String} (hname : name ∈ reservedModules) :
    ((hidingUses ds).filter fun use => use.place.name = name) =
      (parentsOf ds name).flatMap fun parent =>
        (ds.flatMap moduleUsesOf).filter fun use => use.place = ⟨parent, name⟩ := by
  have hplace : ∀ place : Place,
      ((ds.flatMap moduleUsesOf).filter fun use => use.place = place).filter
          (fun use => use.place.name = name) =
        if place.name = name then (ds.flatMap moduleUsesOf).filter fun use => use.place = place
        else [] := by
    intro place
    split
    · next hsame =>
      rw [List.filter_eq_self]
      intro use huse
      rw [of_decide_eq_true (List.mem_filter.1 huse).2, decide_eq_true hsame]
    · next hother =>
      rw [List.filter_eq_nil_iff]
      intro use huse
      rw [of_decide_eq_true (List.mem_filter.1 huse).2, decide_eq_true_eq]
      exact hother
  have hnames : (((placesOf ds).filter fun place => place.name ∈ reservedModules).filter
      fun place => place.name = name) = (placesOf ds).filter fun place => place.name = name := by
    rw [List.filter_filter]
    refine List.filter_congr fun place _ => ?_
    by_cases hsame : place.name = name
    · simp [hsame, hname]
    · simp [hsame]
  rw [hidingUses, List.filter_flatMap]
  simp only [hplace]
  rw [flatMap_guarded fun place : Place => place.name = name, hnames, filter_placesOf,
    List.flatMap_map]

theorem sitesOf_hidingUses {name : String} (hname : name ∈ reservedModules) :
    sitesOf ((hidingUses ds).filter fun use => use.place.name = name) = hidingSites ds name := by
  have hparent : ∀ parent, dropRepeats
      (((ds.flatMap moduleUsesOf).filter fun use => use.place = ⟨parent, name⟩).map (·.site)) =
        dropRepeats ((ds.filter fun d => LiesUnder parent name d).map (·.site)) := by
    intro parent
    rw [List.filter_flatMap, List.map_flatMap]
    refine dropRepeats_flatMap_sites ?_ ?_
    · intro d _ site hsite
      obtain ⟨use, huse, rfl⟩ := List.mem_map.1 hsite
      obtain ⟨before, segment, behind, -, rfl⟩ := mem_moduleUses.1 (List.mem_filter.1 huse).1
      rfl
    · intro d _
      rw [← place_mem_moduleUsesOf hname, ne_eq, List.map_eq_nil_iff, List.filter_eq_nil_iff]
      simp
  -- repeats are dropped in the end, so those of neighbours may be dropped before
  rw [sitesOf, filter_hidingUses hname, List.map_flatMap, ← eraseDups_dropRepeats,
    dropRepeats_flatMap_congr fun parent _ => hparent parent, eraseDups_dropRepeats, hidingSites]

/-- The reserved names that modules have, ascending. -/
def hidingNames (ds : List Declaration) : List String :=
  distinctKeys textLe ((hidingUses ds).map (·.place.name))

theorem mem_hidingUses {use : ModuleUse} :
    use ∈ hidingUses ds ↔
      use.place.name ∈ reservedModules ∧ use ∈ ds.flatMap moduleUsesOf := by
  rw [hidingUses, List.mem_flatMap]
  simp only [List.mem_filter, decide_eq_true_eq]
  constructor
  · rintro ⟨place, ⟨-, hreserved⟩, huse, rfl⟩
    exact ⟨hreserved, huse⟩
  · rintro ⟨hreserved, huse⟩
    exact ⟨use.place, ⟨mem_distinctKeys.2 (List.mem_map_of_mem huse), hreserved⟩, huse, rfl⟩

theorem mem_hidingNames {name : String} :
    name ∈ hidingNames ds ↔
      name ∈ reservedModules ∧ ∃ d ∈ ds, name ∈ Text.segments d.scope := by
  have huses : name ∈ hidingNames ds ↔
      name ∈ reservedModules ∧ ∃ d ∈ ds, ∃ use ∈ moduleUsesOf d, use.place.name = name := by
    rw [hidingNames, mem_distinctKeys, List.mem_map]
    simp only [mem_hidingUses, List.mem_flatMap]
    constructor
    · rintro ⟨use, ⟨hreserved, d, hd, huse⟩, rfl⟩
      exact ⟨hreserved, d, hd, use, huse, rfl⟩
    · rintro ⟨hreserved, d, hd, use, huse, rfl⟩
      exact ⟨use, ⟨hreserved, d, hd, huse⟩, rfl⟩
  rw [huses]
  refine and_congr_right fun hname => exists_congr fun d => and_congr_right fun _ => ?_
  rw [← exists_liesUnder]
  simp only [← place_mem_moduleUsesOf hname]
  constructor
  · rintro ⟨use, huse, rfl⟩
    exact ⟨use.place.parent, use, huse, rfl⟩
  · rintro ⟨parent, use, huse, hplace⟩
    exact ⟨use, huse, congrArg Place.name hplace⟩

theorem reservedModuleNames_eq :
    reservedModuleNames ds =
      (hidingNames ds).map fun name => ⟨.illegalIdentifier name, hidingSites ds name⟩ := by
  have huses : hidingUses ds = (places ds).flatMap fun group =>
      if group.1.name ∈ reservedModules then group.2 else [] := by
    rw [places, groupBy, List.flatMap_map]
    exact (flatMap_guarded (fun place : Place => place.name ∈ reservedModules) _ _).symm
  have hnames : reservedModuleNames ds = (groupBy textLe (·.place.name) (hidingUses ds)).map
      fun group => ⟨.illegalIdentifier group.1, sitesOf group.2⟩ := by
    rw [huses]
    rfl
  rw [hnames, groupBy, List.map_map]
  refine List.map_congr_left fun name hname => ?_
  have hreserved := (mem_hidingNames.1 hname).1
  simp only [Function.comp_apply, sitesOf_hidingUses hreserved]

theorem isIdentifier_of_reserved {name : String} (h : name ∈ reservedModules) :
    isIdentifier name := by
  have hall : ∀ name ∈ reservedModules, isIdentifier name := by decide +kernel
  exact hall name h

end Check

/-! ## Both together -/

/-- An identifier or a segment with this spelling cannot become an identifier. -/
def Misspelled (ds : List Declaration) (spelling : String) : Prop :=
  ¬ IdentifierShape spelling ∧ usersOf ds spelling ≠ []

/-- A segment with this spelling becomes a module that hides a type. -/
def HidesType (ds : List Declaration) (spelling : String) : Prop :=
  spelling ∈ reservedModules ∧ ∃ d ∈ ds, spelling ∈ Text.segments d.scope

/-- The sites of all that use a spelling, in the order in which they are declared. -/
structure TellsUsers (ds : List Declaration) (spelling : String) (sites : List String) : Prop where
  order : sites.eraseDups = ((usersOf ds spelling).map (·.site)).eraseDups
  once : Together ((usersOf ds spelling).map (·.site)) → sites.Nodup

/-- The sites of all that use a spelling as a segment, each once. They come by the path that leads
to the segment, and under one path in the order in which they are declared. -/
structure TellsModules (ds : List Declaration) (spelling : String) (sites : List String) :
    Prop where
  once : sites.Nodup
  all : ∀ site, site ∈ sites ↔ ∃ d ∈ ds, spelling ∈ Text.segments d.scope ∧ d.site = site
  order : ∃ parents : List String,
    parents.Pairwise (fun p q => Text.bytes p < Text.bytes q) ∧
    (∀ parent, parent ∈ parents ↔ ∃ d ∈ ds, LiesUnder parent spelling d) ∧
    sites = (parents.flatMap fun parent =>
      (ds.filter fun d => LiesUnder parent spelling d).map (·.site)).eraseDups

theorem tellsUsers_dropRepeats (ds : List Declaration) (spelling : String) :
    TellsUsers ds spelling (dropRepeats ((usersOf ds spelling).map (·.site))) where
  order := eraseDups_dropRepeats _
  once := Together.nodup_dropRepeats

theorem tellsModules_hidingSites {spelling : String} (h : spelling ∈ reservedModules) :
    TellsModules ds spelling (hidingSites ds spelling) where
  once := nodup_eraseDups _
  all := by
    intro site
    rw [hidingSites, List.mem_eraseDups]
    simp only [List.mem_flatMap, List.mem_map, List.mem_filter, decide_eq_true_eq, mem_parentsOf h,
      ← exists_liesUnder]
    constructor
    · rintro ⟨parent, -, d, ⟨hd, hunder⟩, hsite⟩
      exact ⟨d, hd, ⟨parent, hunder⟩, hsite⟩
    · rintro ⟨d, hd, ⟨parent, hunder⟩, hsite⟩
      exact ⟨parent, ⟨d, hd, hunder⟩, d, ⟨hd, hunder⟩, hsite⟩
  order := ⟨parentsOf ds spelling, (parentsOf_ascending ds spelling).imp Text.bytes_lt_iff.2,
    fun _ => mem_parentsOf h, rfl⟩

/-- The sites that are told of a spelling, by the check that is about it. -/
def illegalSites (ds : List Declaration) (spelling : String) : List String :=
  if isIdentifier spelling then hidingSites ds spelling
  else dropRepeats ((usersOf ds spelling).map (·.site))

theorem illegalSites_misspelled {spelling : String} (h : ¬ isIdentifier spelling) :
    illegalSites ds spelling = dropRepeats ((usersOf ds spelling).map (·.site)) :=
  if_neg h

theorem illegalSites_reserved {spelling : String} (h : spelling ∈ reservedModules) :
    illegalSites ds spelling = hidingSites ds spelling :=
  if_pos (isIdentifier_of_reserved h)

end MetricFacade
