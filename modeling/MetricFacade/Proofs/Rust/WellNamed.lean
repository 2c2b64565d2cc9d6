import MetricFacade.Proofs.Catalog
import MetricFacade.Proofs.Rust.Ident
import MetricFacade.Proofs.WellFormed
import MetricFacade.Rust.Source

/-!
# Generated code is well named

The checks compare source spellings; what is generated is written anew, in snake case, escaped
and with raw markers. Here the two are brought together, for the items of one namespace and
for the modules around them.

Results:

* `FacadeItems.wellNamed`: identifiers, names told apart, and finite literals in one namespace.
* `forest_wellNamed`: the same in every module, and siblings told apart.
-/
namespace MetricFacade.Rust

open Check Ident MetricFacade.Metric

/-! ## What well named means -/

/-- Every literal of the call is a finite double. -/
def BucketCall.Finite : BucketCall → Prop
  | exponential start factor _ => start.isFinite ∧ factor.isFinite
  | linear start width _ => start.isFinite ∧ width.isFinite
  | bounds values => ∀ v ∈ values, v.isFinite

structure FacadeItems.WellNamed (f : FacadeItems) : Prop where
  /-- Fields, accessors and parameters are identifiers. -/
  constructors : ∀ c ∈ f.constructors, Identifier c.field
  accessors : ∀ a ∈ f.accessors, Identifier a.name ∧ Identifier a.field ∧
    ∀ p ∈ a.params, Identifier p
  /-- No two fields of the type have one name. -/
  fields_distinct : (f.constructors.map (·.field)).Nodup
  /-- No two methods of the type have one name, its constructors included. -/
  methods_distinct : ("create" :: "create_with_registry" :: f.accessors.map (·.name)).Nodup
  /-- No two parameters of one accessor have one name. -/
  params_distinct : ∀ a ∈ f.accessors, a.params.Nodup
  literals : ∀ c ∈ f.constructors, ∀ call ∈ c.buckets, call.Finite

/-- The names of some sibling modules, as they stand in source text. -/
def siblingNames (modules : List Module) : List String :=
  modules.map fun m => written m.segment

/-- A module is well named, with all that is in it. -/
inductive Module.WellNamed : Module → Prop where
  | mk {segment : String} {facade : Option Facade} {children : List Module}
      (name : Identifier (written segment))
      (items : ∀ f ∈ facade, (FacadeItems.ofFacade f).WellNamed)
      (siblings : (siblingNames children).Nodup)
      (below : ∀ m ∈ children, WellNamed m) : WellNamed (.mk segment facade children)

/-- The modules of a whole output are well named. -/
def WellNamedForest (modules : List Module) : Prop :=
  (siblingNames modules).Nodup ∧ ∀ m ∈ modules, m.WellNamed

/-! ## One namespace -/

section Items

variable {ds : List Declaration}

/-- Members that differ where the checks look differ where they are written. -/
theorem written_members_distinct {name : Declaration → String}
    (hshape : ∀ d ∈ ds, IdentifierShape (name d))
    (h : ds.Pairwise fun d e => d.scope = e.scope → member (name d) ≠ member (name e))
    (scope : String) : ((declaredIn ds scope).map fun d => writtenMember (name d)).Nodup := by
  rw [List.Nodup, List.pairwise_map, declaredIn, List.pairwise_filter]
  refine h.imp_of_mem ?_
  intro d e hd he hde hdscope hescope hwritten
  have hscope : d.scope = e.scope := by
    rw [of_decide_eq_true hdscope, of_decide_eq_true hescope]
  exact hde hscope (written_injective (bare_member (hshape d hd)) (bare_member (hshape e he))
    hwritten)

/-- The constructors of a facade are written as they are. -/
theorem written_reserved : ∀ r ∈ reservedMembers, escaped r = r ∧ written r = r ∧ Bare r := by
  have hall : ∀ r ∈ reservedMembers,
      escaped r = r ∧ written r = r ∧ isWord r ∧ r ≠ "_" ∧ r ∉ pathKeywords := by decide
  intro r hr
  obtain ⟨hesc, hwritten, hword, hrest⟩ := hall r hr
  exact ⟨hesc, hwritten, isWord_iff.1 hword, hrest⟩

theorem writtenMember_ne_reserved {s r : String} (hs : IdentifierShape s)
    (hr : r ∈ reservedMembers) (h : member s ∉ reservedMembers) : writtenMember s ≠ r := by
  obtain ⟨hesc, hwritten, hbare⟩ := written_reserved r hr
  intro heq
  have hmember : member s = escaped r :=
    written_injective (bare_member hs) (hesc.symm ▸ hbare) (heq.trans hwritten.symm)
  rw [hmember, hesc] at h
  exact h hr

theorem paramNames_eq (labels : List String) :
    paramNames labels = (paramsOf labels).map written := by
  simp [paramNames, paramsOf, Function.comp_def]

theorem bare_of_mem_paramsOf {labels : List String} (h : LabelsFit labels) {p : String}
    (hp : p ∈ paramsOf labels) : Bare p := by
  obtain ⟨⟨label, i⟩, hmem, rfl⟩ := List.mem_map.1 hp
  exact bare_param (h.spelled label (List.fst_mem_of_mem_zipIdx hmem)) i

theorem paramNames_fit {labels : List String} (h : LabelsFit labels) :
    (∀ p ∈ paramNames labels, Identifier p) ∧ (paramNames labels).Nodup := by
  have hbare : ∀ p ∈ paramsOf labels, Bare (escaped p) := by
    intro p hp
    have := bare_of_mem_paramsOf h hp
    rwa [escaped_of_bare this]
  rw [paramNames_eq]
  constructor
  · intro w hw
    obtain ⟨p, hp, rfl⟩ := List.mem_map.1 hw
    exact written_identifier (hbare p hp)
  · refine h.params_distinct.map_on ?_
    intro p hp q hq hpq
    have := written_injective (hbare p hp) (hbare q hq) hpq
    rwa [escaped_of_bare (bare_of_mem_paramsOf h hp),
      escaped_of_bare (bare_of_mem_paramsOf h hq)] at this

theorem finite_of_sound {spec : Bucket.Spec} (h : spec.Sound) :
    (BucketCall.ofSpec spec).Finite := by
  cases spec with
  | explicit values => exact h.2.1
  | exponential => exact ⟨h.2.1.1, h.2.2.1.1⟩
  | linear => exact ⟨h.2.1, h.2.2.1.1⟩
  | standard => exact Bucket.rising_standardLadder.1

theorem mem_declaredIn {scope : String} {d : Declaration} (h : d ∈ declaredIn ds scope) : d ∈ ds :=
  (List.mem_filter.1 h).1

theorem fieldShape {d : Declaration} (h : IdentifiersFit d) :
    IdentifierShape (d.ident ++ d.kind.name) :=
  identifierShape_append h.1 (kind_name_chars d.kind)

theorem field_constructor (m : Resolved) :
    (Constructor.ofMetric m).field = writtenMember m.field := by
  rw [Constructor.ofMetric]

theorem name_accessor (m : Resolved) :
    (Accessor.ofMetric m).name = writtenMember m.accessor := by
  rw [Accessor.ofMetric]

theorem field_accessor (m : Resolved) :
    (Accessor.ofMetric m).field = writtenMember m.field := by
  rw [Accessor.ofMetric]

theorem params_accessor (m : Resolved) :
    (Accessor.ofMetric m).params = paramNames m.labels := by
  rw [Accessor.ofMetric]

theorem constructors_eq {f : Facade} (hf : f ∈ facades ds) :
    (FacadeItems.ofFacade f).constructors =
      (declaredIn ds f.scope).map fun d => Constructor.ofMetric d.resolve := by
  simp only [FacadeItems.ofFacade, (mem_facades.1 hf).2, List.map_map, Function.comp_def]

theorem accessors_eq {f : Facade} (hf : f ∈ facades ds) :
    (FacadeItems.ofFacade f).accessors =
      (declaredIn ds f.scope).map fun d => Accessor.ofMetric d.resolve := by
  simp only [FacadeItems.ofFacade, (mem_facades.1 hf).2, List.map_map, Function.comp_def]

/-- What the types of metrics are called comes from the kinds. -/
theorem types_ofFacade {p : String → Prop} (h : ∀ k : Kind, p k.name ∧ p (k.name ++ "Vec"))
    (f : Facade) : (∀ c ∈ (FacadeItems.ofFacade f).constructors, p c.handle) ∧
      ∀ a ∈ (FacadeItems.ofFacade f).accessors, p a.child := by
  rw [FacadeItems.ofFacade, List.forall_mem_map, List.forall_mem_map]
  constructor
  · intro m _
    rw [Constructor.ofMetric, handleType]
    split
    · exact (h m.kind).1
    · exact (h m.kind).2
  · intro m _
    rw [Accessor.ofMetric, childType]
    exact (h m.kind).1

/-- What is built for a metric can be built: its identifiers are bare once they are escaped, and
its literals are finite. -/
structure Spelled (m : Resolved) : Prop where
  accessor : Bare (escaped (Text.snakeCase m.accessor))
  field : Bare (escaped (Text.snakeCase m.field))
  params : ∀ p ∈ paramsOf m.labels, Bare p
  literals : ∀ spec ∈ m.buckets, (BucketCall.ofSpec spec).Finite

theorem spelled_resolve (h : Nameable ds)
    (hsound : ∀ d ∈ ds, ∀ spec ∈ d.resolvedBuckets, spec.Sound) {d : Declaration} (hd : d ∈ ds) :
    Spelled d.resolve where
  accessor := bare_member (h.identifiers d hd).1
  field := bare_member (fieldShape (h.identifiers d hd))
  params := fun _ hp => bare_of_mem_paramsOf (h.labels d hd) hp
  literals := fun spec hspec => finite_of_sound (hsound d hd spec hspec)

theorem spelled_of_mem_facades (h : Nameable ds)
    (hsound : ∀ d ∈ ds, ∀ spec ∈ d.resolvedBuckets, spec.Sound) {f : Facade}
    (hf : f ∈ facades ds) : ∀ m ∈ f.metrics, Spelled m := by
  rw [(mem_facades.1 hf).2, List.forall_mem_map]
  intro d hd
  exact spelled_resolve h hsound (mem_declaredIn hd)

/-- The items of a namespace are named after declarations that passed the checks. -/
theorem FacadeItems.wellNamed (h : Nameable ds)
    (hsound : ∀ d ∈ ds, ∀ spec ∈ d.resolvedBuckets, spec.Sound) {f : Facade}
    (hf : f ∈ facades ds) : (FacadeItems.ofFacade f).WellNamed := by
  have hspelled := spelled_of_mem_facades h hsound hf
  constructor
  · rw [FacadeItems.ofFacade, List.forall_mem_map]
    intro m hm
    rw [field_constructor]
    exact written_identifier (hspelled m hm).field
  · rw [accessors_eq hf, List.forall_mem_map]
    intro d hd
    rw [name_accessor, field_accessor, params_accessor]
    have hd' := spelled_resolve h hsound (mem_declaredIn hd)
    exact ⟨written_identifier hd'.accessor, written_identifier hd'.field,
      (paramNames_fit (h.labels d (mem_declaredIn hd))).1⟩
  · simp only [constructors_eq hf, List.map_map, Function.comp_def, field_constructor]
    exact written_members_distinct (fun d hd => fieldShape (h.identifiers d hd))
      h.fields.distinct f.scope
  · have hfree : ∀ r ∈ reservedMembers,
        r ∉ (declaredIn ds f.scope).map fun d => writtenMember d.ident := by
      intro r hr hmem
      obtain ⟨d, hd, heq⟩ := List.mem_map.1 hmem
      exact writtenMember_ne_reserved (h.identifiers d (mem_declaredIn hd)).1 hr
        (h.accessors.free d (mem_declaredIn hd)) heq
    simp only [accessors_eq hf, List.map_map, Function.comp_def, name_accessor]
    rw [List.nodup_cons, List.nodup_cons, List.mem_cons, not_or]
    refine ⟨⟨by decide, hfree _ (by decide)⟩, hfree _ (by decide), ?_⟩
    exact written_members_distinct (fun d hd => (h.identifiers d hd).1)
      h.accessors.distinct f.scope
  · rw [accessors_eq hf, List.forall_mem_map]
    intro d hd
    rw [params_accessor]
    exact (paramNames_fit (h.labels d (mem_declaredIn hd))).2
  · rw [FacadeItems.ofFacade, List.forall_mem_map]
    intro m hm call hcall
    obtain ⟨spec, hspec, rfl⟩ := Option.map_eq_some_iff.1 hcall
    exact (hspelled m hm).literals spec hspec

end Items

/-! ## Modules -/

/-- Where two routes branch, the segments stay different when they are escaped. -/
def Apart (routes : List Route) : Prop :=
  ∀ a ∈ routes, ∀ b ∈ routes, ∀ parents s t u v,
    a.path = parents ++ s :: u → b.path = parents ++ t :: v → escaped s = escaped t → s = t

/-- Routes along which every module can be named, to facades that are good. -/
structure Routable (good : Facade → Prop) (routes : List Route) : Prop where
  segments : ∀ r ∈ routes, ∀ s ∈ r.path, Bare (escaped s)
  apart : Apart routes
  facades : ∀ r ∈ routes, good r.facade

/-- The routes that lead through one module, seen from inside it. -/
def Inside (routes : List Route) (segment : String) (below : List Route) : Prop :=
  ∀ r ∈ below, ∃ q ∈ routes, q.path = segment :: r.path ∧ r.facade = q.facade

theorem Routable.inside {good : Facade → Prop} {routes below : List Route} {segment : String}
    (h : Routable good routes) (hbelow : Inside routes segment below) : Routable good below where
  segments := by
    intro r hr s hs
    obtain ⟨q, hq, hpath, -⟩ := hbelow r hr
    exact h.segments q hq s (by rw [hpath]; exact List.mem_cons_of_mem _ hs)
  apart := by
    intro a ha b hb parents s t u v hs ht
    obtain ⟨a', ha', hpa, -⟩ := hbelow a ha
    obtain ⟨b', hb', hpb, -⟩ := hbelow b hb
    exact h.apart a' ha' b' hb' (segment :: parents) s t u v (by rw [hpa, hs]; rfl)
      (by rw [hpb, ht]; rfl)
  facades := by
    intro r hr
    obtain ⟨q, hq, -, hfacade⟩ := hbelow r hr
    rw [hfacade]
    exact h.facades q hq

/-- The routes by their first segments. -/
def branches (routes : List Route) : List (String × List Route) :=
  groupBy textLe (fun r => r.path.headD "") (routes.filter fun r => !r.path.isEmpty)

theorem modulesAt_succ (depth : Nat) (routes : List Route) :
    modulesAt (depth + 1) routes = (branches routes).map fun (segment, through) =>
      .mk segment
        (((through.map Route.descend).filter fun r => r.path.isEmpty).getLast?.map (·.facade))
        (modulesAt depth (through.map Route.descend)) := rfl

theorem cons_of_going {routes : List Route} {r : Route} {segment : String}
    (hr : r ∈ routes.filter fun r => !r.path.isEmpty) (hhead : r.path.headD "" = segment) :
    r ∈ routes ∧ r.path = segment :: r.path.drop 1 := by
  obtain ⟨hin, hne⟩ := List.mem_filter.1 hr
  match hpath : r.path with
  | [] => simp [hpath] at hne
  | s :: rest =>
    rw [hpath] at hhead
    exact ⟨hin, by rw [← hhead]; rfl⟩

theorem mem_branches {routes through : List Route} {segment : String}
    (h : (segment, through) ∈ branches routes) :
    (∃ r ∈ routes, ∃ rest, r.path = segment :: rest) ∧
      Inside routes segment (through.map Route.descend) := by
  obtain ⟨⟨r, hr, hhead⟩, rfl⟩ := mem_groupBy.1 h
  refine ⟨⟨r, (cons_of_going hr hhead).1, _, (cons_of_going hr hhead).2⟩, ?_⟩
  intro s hs
  obtain ⟨q, hq, rfl⟩ := List.mem_map.1 hs
  obtain ⟨hgoing, hsegment⟩ := List.mem_filter.1 hq
  obtain ⟨hin, hpath⟩ := cons_of_going hgoing (of_decide_eq_true hsegment)
  exact ⟨q, hin, hpath, rfl⟩

/-- Siblings are told apart by their segments, and by what is written for these. -/
theorem siblings_distinct {good : Facade → Prop} {routes : List Route} (h : Routable good routes)
    (depth : Nat) : (siblingNames (modulesAt (depth + 1) routes)).Nodup := by
  have hnames : siblingNames (modulesAt (depth + 1) routes) =
      ((branches routes).map (·.1)).map written := by
    rw [modulesAt_succ, siblingNames, List.map_map, List.map_map]
    rfl
  rw [hnames]
  refine nodup_keys_groupBy.map_on ?_
  intro s hs t ht hwritten
  obtain ⟨⟨_, through⟩, hbranch, rfl⟩ := List.mem_map.1 hs
  obtain ⟨⟨_, through'⟩, hbranch', rfl⟩ := List.mem_map.1 ht
  obtain ⟨⟨a, ha, u, hu⟩, -⟩ := mem_branches hbranch
  obtain ⟨⟨b, hb, v, hv⟩, -⟩ := mem_branches hbranch'
  refine h.apart a ha b hb [] _ _ u v hu hv (written_injective ?_ ?_ hwritten)
  · exact h.segments a ha _ (by rw [hu]; exact List.mem_cons_self)
  · exact h.segments b hb _ (by rw [hv]; exact List.mem_cons_self)

/-- What a module holds comes from the routes through it. -/
theorem mem_modulesAt {good : Facade → Prop} {routes : List Route} (h : Routable good routes)
    {depth : Nat} {m : Module} (hm : m ∈ modulesAt (depth + 1) routes) :
    ∃ segment facade below, m = .mk segment facade (modulesAt depth below) ∧
      Bare (escaped segment) ∧ (∀ f ∈ facade, good f) ∧ Routable good below := by
  rw [modulesAt_succ] at hm
  obtain ⟨⟨segment, through⟩, hbranch, rfl⟩ := List.mem_map.1 hm
  obtain ⟨⟨r, hr, rest, hpath⟩, hinside⟩ := mem_branches hbranch
  refine ⟨_, _, _, rfl, ?_, ?_, h.inside hinside⟩
  · exact h.segments r hr segment (by rw [hpath]; exact List.mem_cons_self)
  · intro f hf
    obtain ⟨q, hq, rfl⟩ := Option.map_eq_some_iff.1 hf
    exact (h.inside hinside).facades q (List.mem_filter.1 (List.mem_of_getLast? hq)).1

theorem modulesAt_wellNamed {routes : List Route}
    (h : Routable (fun f => (FacadeItems.ofFacade f).WellNamed) routes) (depth : Nat) :
    WellNamedForest (modulesAt depth routes) := by
  induction depth generalizing routes with
  | zero => exact ⟨List.nodup_nil, by simp [modulesAt]⟩
  | succ depth ih =>
    refine ⟨siblings_distinct h depth, ?_⟩
    intro m hm
    obtain ⟨segment, facade, below, rfl, hname, hitems, hbelow⟩ := mem_modulesAt h hm
    exact .mk (written_identifier hname) hitems (ih hbelow).1 (ih hbelow).2

theorem routable_facades {ds : List Declaration} (h : Nameable ds) {good : Facade → Prop}
    (hgood : ∀ f ∈ facades ds, good f) : Routable good ((facades ds).map Route.ofFacade) := by
  have hdeclared : ∀ r ∈ (facades ds).map Route.ofFacade,
      r.facade ∈ facades ds ∧ ∃ d ∈ ds, r.path = Text.segments d.scope := by
    rw [List.forall_mem_map]
    intro f hf
    obtain ⟨d, hd, hscope⟩ := (mem_facades.1 hf).1
    exact ⟨hf, d, hd, by rw [hscope]; rfl⟩
  constructor
  · intro r hr s hs
    obtain ⟨-, d, hd, hpath⟩ := hdeclared r hr
    have hshape := (h.identifiers d hd).2 s (hpath ▸ hs)
    exact bare_escaped hshape.word hshape.ne_underscore
  · intro a ha b hb parents s t u v hs ht
    obtain ⟨-, d, hd, hd'⟩ := hdeclared a ha
    obtain ⟨-, e, he, he'⟩ := hdeclared b hb
    exact h.modules.distinct d hd e he parents s t u v (hd' ▸ hs) (he' ▸ ht)
  · intro r hr
    exact hgood r.facade (hdeclared r hr).1

/-- The output for a set of declarations that passed the checks is well named. -/
theorem forest_wellNamed {ds : List Declaration} (h : Nameable ds)
    (hsound : ∀ d ∈ ds, ∀ spec ∈ d.resolvedBuckets, spec.Sound) :
    WellNamedForest (forest (facades ds)) :=
  modulesAt_wellNamed (routable_facades h fun _ hf => FacadeItems.wellNamed h hsound hf) _

end MetricFacade.Rust
