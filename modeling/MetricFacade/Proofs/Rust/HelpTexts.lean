import Mathlib.Data.List.Forall2
import Mathlib.Data.List.Nodup
import Mathlib.Data.List.Perm.Basic
import MetricFacade.Backend
import MetricFacade.Proofs.Live.Acceptance
import MetricFacade.Proofs.Partition
import MetricFacade.Proofs.Policy
import MetricFacade.Proofs.Rust.Arguments
import MetricFacade.Proofs.Rust.Checked
import MetricFacade.Proofs.Rust.Forest
import MetricFacade.Proofs.Rust.Legible

/-!
# Help texts stay in their literals

No check looks at a help text, and it lands in generated source. Whatever it is, it is the value of
two literals there and of nothing else: the tokens of the source are slots that do not depend on
help texts, two for each metric that are filled with its own.

Results:

* `exists_withHelp`: help texts replaced are help texts given by name.
* `violations_withHelp`: no check sees them.
* `modulesAt_withHelp`: the tokens of modules are slots filled.
* `help_confined`: the source text for any help texts, lexed.
-/
namespace MetricFacade

open MetricFacade.Metric

/-! ## Other help texts -/

/-- Nothing but the help texts differs. -/
def SameButHelp (d e : Declaration) : Prop :=
  ∃ help, e = { d with help := help }

namespace Metric

/-- The help text of a metric that was given this one. -/
def shownHelp (help : String) : String :=
  if Text.isAllBlank help then defaultHelp else help

variable (help : String → String)

/-- The declaration with the help text for its name. -/
def Declaration.withHelp (d : Declaration) : Declaration :=
  { d with help := help d.resolvedName }

def Resolved.withHelp (m : Resolved) : Resolved :=
  { m with help := help m.name }

end Metric

def Facade.withHelp (help : String → String) (f : Facade) : Facade :=
  ⟨f.scope, f.metrics.map (·.withHelp help)⟩

variable {ds es : List Declaration}

theorem eq_map_withHelp {help : String → String} (h : List.Forall₂ SameButHelp ds es)
    (hhelp : ∀ e ∈ es, help e.resolvedName = e.help) : es = ds.map (·.withHelp help) := by
  induction h with
  | nil => rfl
  | @cons d e ds es hde _ ih =>
    obtain ⟨he, hes⟩ := List.forall_mem_cons.1 hhelp
    obtain ⟨shown, rfl⟩ := hde
    have hd : help d.resolvedName = shown := he
    rw [List.map_cons, ← ih hes, Declaration.withHelp, hd]

/-- Since names differ, help texts that are replaced are replaced by name. -/
theorem exists_withHelp (hdistinct : (ds.map (·.resolvedName)).Nodup)
    (h : List.Forall₂ SameButHelp ds es) :
    ∃ help : String → String, es = ds.map (·.withHelp help) ∧
      ∀ e ∈ es, help e.resolvedName = e.help := by
  have hnames : es.map (·.resolvedName) = ds.map (·.resolvedName) := by
    induction h with
    | nil => rfl
    | cons hde _ ih =>
      obtain ⟨shown, rfl⟩ := hde
      rw [List.map_cons, List.map_cons, ih (List.nodup_cons.1 hdistinct).2]
      rfl
  rw [← hnames] at hdistinct
  let help (name : String) : String :=
    ((es.find? fun e => e.resolvedName = name).map (·.help)).getD ""
  have hhelp : ∀ e ∈ es, help e.resolvedName = e.help := by
    intro e he
    have hsome : (es.find? fun d => d.resolvedName = e.resolvedName).isSome :=
      List.find?_isSome.2 ⟨e, he, by simp⟩
    obtain ⟨d, hfind⟩ := Option.isSome_iff_exists.1 hsome
    have hname : d.resolvedName = e.resolvedName := by simpa using List.find?_some hfind
    have hsame : d = e :=
      List.inj_on_of_nodup_map hdistinct (List.mem_of_find?_eq_some hfind) he hname
    simp [help, hfind, hsame]
  exact ⟨help, eq_map_withHelp h hhelp, hhelp⟩

theorem violations_withHelp (policy : BucketPolicy) (help : String → String) (ds : List Declaration) :
    violations policy (ds.map (·.withHelp help)) = violations policy ds := by
  rw [violations_eq, violations_eq]
  congr 1
  · exact namingViolations_map (·.buckets) fun d => help d.resolvedName
  · unfold Check.illegalBuckets
    rw [List.flatMap_map]
    rfl

theorem facades_withHelp (help : String → String) (ds : List Declaration) :
    facades (ds.map (·.withHelp help)) =
      (facades ds).map (·.withHelp fun name => shownHelp (help name)) := by
  have hresolved : (ds.map (·.withHelp help)).map (·.resolve) =
      (ds.map (·.resolve)).map (·.withHelp fun name => shownHelp (help name)) := by
    rw [List.map_map, List.map_map]
    rfl
  unfold facades
  rw [hresolved, groupBy_map, List.map_map, List.map_map]
  rfl

namespace Rust

open Ident Lexer Token

/-! ## Slots -/

/-- Where a help text stands: in the options of a metric or in the doc attribute of its accessor. -/
inductive HelpRole where
  | options
  | doc
  deriving Repr, DecidableEq

/-- A token of generated code, or the place of a help text. -/
inductive Slot where
  | fixed (t : Token)
  | help (metric : String) (role : HelpRole)
  deriving Repr, DecidableEq

namespace Slot

/-- The token that stands there. -/
def fill (help : String → String) : Slot → Token
  | fixed t => t
  | .help metric _ => text (help metric)

def place? : Slot → Option (String × HelpRole)
  | fixed _ => none
  | .help metric role => some (metric, role)

end Slot

def fixedSlots (ts : List Token) : List Slot :=
  ts.map .fixed

theorem fill_fixedSlots (help : String → String) (ts : List Token) :
    (fixedSlots ts).map (Slot.fill help) = ts := by
  rw [fixedSlots, List.map_map]
  exact List.map_id ts

theorem places_fixedSlots (ts : List Token) : (fixedSlots ts).filterMap Slot.place? = [] := by
  rw [fixedSlots, List.filterMap_map]
  exact List.filterMap_eq_nil_iff.2 fun _ _ => rfl

namespace Constructor

/-- The tokens up to the comma behind the name. -/
def beforeHelp (rt : String) (c : Constructor) : List Token :=
  codes ["let", c.field, "="]
    ++ clientItem rt [c.handle, if c.labels.isEmpty then "with_opts" else "new"]
    ++ code "(" :: clientItem rt [if c.forHistogram then "HistogramOpts" else "Opts", "new"]
    ++ [code "(", text c.name, code ","]

def afterHelp (rt : String) (c : Constructor) : List Token :=
  let buckets := match c.buckets with
    | none => []
    | some buckets => codes [".", "buckets", "("] ++ buckets.tokens rt ++ [code ")"]
  let labels := if c.labels.isEmpty then []
    else codes [",", "&", "["] ++ commaSeparated (c.labels.map fun label => [text label])
      ++ [code "]"]
  code ")" :: buckets ++ labels ++ codes [")", "?", ";"]

/-- The help text is the second argument of what makes the options. -/
theorem tokens_around_help (rt : String) (c : Constructor) :
    c.tokens rt = c.beforeHelp rt ++ text c.help :: c.afterHelp rt := by
  unfold tokens beforeHelp afterHelp options
  cases c.buckets <;> split <;> simp [codes, commaSeparated]

end Constructor

namespace Accessor

def afterHelp (rt : String) (a : Accessor) : List Token :=
  code "]" :: (if a.params.isEmpty then [] else a.allowance) ++ metaItem [code "must_use"]
    ++ a.method rt

/-- The help text is the value of the doc attribute that the accessor starts with. -/
theorem tokens_around_help (rt : String) (a : Accessor) :
    a.tokens rt = codes ["#", "[", "doc", "="] ++ text a.help :: a.afterHelp rt := by
  rw [a.tokens_eq, attributes, afterHelp]
  split <;> simp [docItem, metaItem, codes]

end Accessor

/-- The constructor of a metric, with a place for its help text. -/
def constructorSlots (rt : String) (m : Resolved) : List Slot :=
  let c := Constructor.ofMetric m
  fixedSlots (c.beforeHelp rt) ++ .help m.name .options :: fixedSlots (c.afterHelp rt)

/-- The accessor of a metric, with a place for its help text. -/
def accessorSlots (rt : String) (m : Resolved) : List Slot :=
  fixedSlots (codes ["#", "[", "doc", "="])
    ++ .help m.name .doc :: fixedSlots ((Accessor.ofMetric m).afterHelp rt)

theorem fill_constructorSlots (help : String → String) (rt : String) (m : Resolved) :
    (constructorSlots rt m).map (Slot.fill help) =
      (Constructor.ofMetric (m.withHelp help)).tokens rt := by
  rw [Constructor.tokens_around_help, constructorSlots, List.map_append, List.map_cons,
    fill_fixedSlots, fill_fixedSlots]
  rfl

theorem fill_accessorSlots (help : String → String) (rt : String) (m : Resolved) :
    (accessorSlots rt m).map (Slot.fill help) =
      (Accessor.ofMetric (m.withHelp help)).tokens rt := by
  rw [Accessor.tokens_around_help, accessorSlots, List.map_append, List.map_cons,
    fill_fixedSlots, fill_fixedSlots]
  rfl

namespace FacadeItems

/-- The items up to where the function that registers builds the metrics. -/
def beforeConstructors (rt : String) (f : FacadeItems) : List Token :=
  f.structItem rt ++ debugItem ++ cacheItem rt
    ++ codes ["fn", "register_metrics", "(", "registry", ":", "&"] ++ clientItem rt ["Registry"]
    ++ codes [")", "->"] ++ clientResult rt [typeName] ++ [code "\x7b"]

/-- The rest of that function and the methods before the accessors. -/
def beforeAccessors (rt : String) (f : FacadeItems) : List Token :=
  let fields := f.constructors.map (·.field)
  crateItem rt ["register_all"] ++ codes ["(", "registry", ",", "vec", "!", "["]
    ++ commaTerminated (fields.map (collector rt)) ++ codes ["]", ",", ")", "?", ";"]
    ++ codes ["Ok", "("] ++ typeName
      :: braced (commaTerminated (fields.map fun field => [code field])) ++ codes [")", "\x7d"]
    ++ code "impl" :: typeName :: code "\x7b" :: createItem rt ++ createWithRegistryItem rt

theorem tokens_around_metrics (rt : String) (f : FacadeItems) :
    f.tokens rt = f.beforeConstructors rt ++ f.constructors.flatMap (·.tokens rt)
      ++ f.beforeAccessors rt ++ f.accessors.flatMap (·.tokens rt) ++ [code "\x7d"] := by
  simp [tokens, registerItem, beforeConstructors, beforeAccessors, braced, codes]

end FacadeItems

/-- The items of a namespace, with places for the help texts. -/
def facadeSlots (rt : String) (f : Facade) : List Slot :=
  let items := FacadeItems.ofFacade f
  fixedSlots (items.beforeConstructors rt) ++ f.metrics.flatMap (constructorSlots rt)
    ++ fixedSlots (items.beforeAccessors rt) ++ f.metrics.flatMap (accessorSlots rt)
    ++ fixedSlots [code "\x7d"]

theorem beforeMetrics_withHelp (help : String → String) (rt : String) (f : Facade) :
    (FacadeItems.ofFacade (f.withHelp help)).beforeConstructors rt =
        (FacadeItems.ofFacade f).beforeConstructors rt ∧
      (FacadeItems.ofFacade (f.withHelp help)).beforeAccessors rt =
        (FacadeItems.ofFacade f).beforeAccessors rt := by
  have hconstructors {α : Type} (g : Constructor → α)
      (hg : ∀ m : Resolved, g (Constructor.ofMetric (m.withHelp help)) = g (Constructor.ofMetric m)) :
      (FacadeItems.ofFacade (f.withHelp help)).constructors.map g =
        (FacadeItems.ofFacade f).constructors.map g := by
    simp only [FacadeItems.ofFacade, Facade.withHelp, List.map_map, Function.comp_def, hg]
  unfold FacadeItems.beforeConstructors FacadeItems.beforeAccessors FacadeItems.structItem
  rw [hconstructors _ fun _ => rfl, hconstructors _ fun _ => rfl]
  exact ⟨rfl, rfl⟩

theorem fill_facadeSlots (help : String → String) (rt : String) (f : Facade) :
    (facadeSlots rt f).map (Slot.fill help) = (FacadeItems.ofFacade (f.withHelp help)).tokens rt := by
  obtain ⟨hbefore, hbetween⟩ := beforeMetrics_withHelp help rt f
  rw [FacadeItems.tokens_around_metrics, hbefore, hbetween]
  simp only [facadeSlots, List.map_append, fill_fixedSlots, List.map_flatMap,
    fill_constructorSlots, fill_accessorSlots]
  simp only [FacadeItems.ofFacade, Facade.withHelp, List.map_map, List.flatMap_map,
    Function.comp_def]

mutual

/-- A module with all that is in it, with places for the help texts. -/
def moduleSlots (rt : String) : Module → List Slot
  | .mk segment facade children =>
    fixedSlots (codes ["pub", "mod", written segment, "\x7b"])
      ++ ((facade.map (facadeSlots rt)).getD []) ++ modulesSlots rt children
      ++ fixedSlots [code "\x7d"]

def modulesSlots (rt : String) : List Module → List Slot
  | [] => []
  | m :: rest => moduleSlots rt m ++ modulesSlots rt rest

end

/-! ## Modules -/

def Route.withHelp (help : String → String) (r : Route) : Route :=
  ⟨r.path, r.facade.withHelp help⟩

theorem modulesSlots_eq (rt : String) (modules : List Module) :
    modulesSlots rt modules = modules.flatMap (moduleSlots rt) := by
  induction modules with
  | nil => rw [modulesSlots, List.flatMap_nil]
  | cons m rest ih => rw [modulesSlots, List.flatMap_cons, ih]

section Routes

variable (help : String → String) (routes : List Route)

theorem facadeAt_withHelp (path : List String) :
    facadeAt (routes.map (·.withHelp help)) path =
      (facadeAt routes path).map (·.withHelp help) := by
  unfold facadeAt
  rw [List.filter_map, List.getLast?_map, Option.map_map, Option.map_map]
  rfl

theorem routesBelow_withHelp (segment : String) :
    routesBelow (routes.map (·.withHelp help)) segment =
      (routesBelow routes segment).map (·.withHelp help) := by
  unfold routesBelow
  rw [List.filter_map, List.map_map, List.map_map]
  rfl

theorem nextSegments_withHelp :
    nextSegments (routes.map (·.withHelp help)) = nextSegments routes := by
  refine (nextSegments_ascending _).eq_of_mem_iff (nextSegments_ascending _) fun segment => ?_
  simp only [mem_nextSegments, List.mem_map, exists_exists_and_eq_and]
  rfl

end Routes

/-- Other help texts change what the slots of the modules are filled with, and no slot. -/
theorem modulesAt_withHelp (help : String → String) (rt : String) (depth : Nat)
    (routes : List Route) :
    (modulesAt depth (routes.map (·.withHelp help))).map (·.tokens rt) =
      (modulesAt depth routes).map fun m => (moduleSlots rt m).map (Slot.fill help) := by
  induction depth generalizing routes with
  | zero => rfl
  | succ depth ih =>
    rw [modulesAt_eq, modulesAt_eq, nextSegments_withHelp, List.map_map, List.map_map]
    refine List.map_congr_left fun segment _ => ?_
    have hbelow := congrArg List.flatten (ih (routesBelow routes segment))
    rw [← routesBelow_withHelp, ← List.flatMap_def, ← List.flatMap_def] at hbelow
    have hfacade (facade : Option Facade) :
        ((facade.map (·.withHelp help)).map fun f => (FacadeItems.ofFacade f).tokens rt).getD [] =
          ((facade.map (facadeSlots rt)).getD []).map (Slot.fill help) := by
      cases facade with
      | none => rfl
      | some f => exact (fill_facadeSlots help rt f).symm
    simp only [Function.comp_apply, Module.tokens, moduleSlots, List.map_append, fill_fixedSlots,
      modulesTokens_eq, modulesSlots_eq, List.map_flatMap, hbelow, facadeAt_withHelp, hfacade]
    simp [braced, codes]

theorem forest_withHelp (help : String → String) (rt : String) (fs : List Facade) :
    (forest (fs.map (·.withHelp help))).map (·.tokens rt) =
      (forest fs).map fun m => (moduleSlots rt m).map (Slot.fill help) := by
  have hroutes : (fs.map (·.withHelp help)).map Route.ofFacade =
      (fs.map Route.ofFacade).map (·.withHelp help) := by
    rw [List.map_map, List.map_map]
    rfl
  have hdepth : ((fs.map Route.ofFacade).map (·.withHelp help)).map (fun r => r.path.length) =
      (fs.map Route.ofFacade).map fun r => r.path.length := by
    rw [List.map_map]
    rfl
  rw [forest, forest, hroutes, hdepth, modulesAt_withHelp]

/-! ## The places -/

/-- The two places of every metric of a facade. -/
def facadePlaces (f : Facade) : List (String × HelpRole) :=
  f.metrics.map (fun m => (m.name, .options)) ++ f.metrics.map fun m => (m.name, .doc)

/-- Slots with one place for each metric. -/
theorem places_flatMap {slots : Resolved → List Slot} {role : HelpRole}
    (h : ∀ m, (slots m).filterMap Slot.place? = [(m.name, role)]) (metrics : List Resolved) :
    (metrics.flatMap slots).filterMap Slot.place? = metrics.map fun m => (m.name, role) := by
  rw [List.filterMap_flatMap, List.map_eq_flatMap]
  simp only [h]

theorem places_facadeSlots (rt : String) (f : Facade) :
    (facadeSlots rt f).filterMap Slot.place? = facadePlaces f := by
  have hconstructors (m : Resolved) :
      (constructorSlots rt m).filterMap Slot.place? = [(m.name, .options)] := by
    simp [constructorSlots, places_fixedSlots, Slot.place?]
  have haccessors (m : Resolved) :
      (accessorSlots rt m).filterMap Slot.place? = [(m.name, .doc)] := by
    simp [accessorSlots, places_fixedSlots, Slot.place?]
  simp only [facadeSlots, List.filterMap_append, places_fixedSlots, places_flatMap hconstructors,
    places_flatMap haccessors, List.nil_append, List.append_nil]
  rfl

mutual

theorem places_moduleSlots (rt : String) : ∀ m : Module,
    (moduleSlots rt m).filterMap Slot.place? = (m.placed.filterMap (·.2)).flatMap facadePlaces
  | .mk segment facade children => by
    have hchildren := places_modulesSlots rt children
    have hbelow : ((placedAll children).map fun below => (segment :: below.1, below.2)).filterMap
        (·.2) = (placedAll children).filterMap (·.2) := by
      rw [List.filterMap_map]
      rfl
    rw [moduleSlots, Module.placed, List.filterMap_append, List.filterMap_append,
      List.filterMap_append, places_fixedSlots, places_fixedSlots, hchildren]
    cases facade with
    | none => simp [hbelow]
    | some f => simp [hbelow, places_facadeSlots]

theorem places_modulesSlots (rt : String) : ∀ modules : List Module,
    (modulesSlots rt modules).filterMap Slot.place? =
      ((placedAll modules).filterMap (·.2)).flatMap facadePlaces
  | [] => by simp [modulesSlots, placedAll]
  | m :: rest => by
    rw [modulesSlots, placedAll, List.filterMap_append, List.filterMap_append,
      List.flatMap_append, places_moduleSlots rt m, places_modulesSlots rt rest]

end

mutual

theorem infix_moduleSlots (rt : String) {path : List String} {f : Facade} : ∀ m : Module,
    (path, some f) ∈ m.placed → facadeSlots rt f <:+: moduleSlots rt m
  | .mk segment facade children, h => by
    rw [moduleSlots]
    rcases mem_placed.1 h with ⟨-, rfl⟩ | ⟨below, -, hbelow⟩
    · exact List.infix_append_of_infix_left (List.infix_append_of_infix_left
        (List.infix_append_of_infix_right (List.infix_refl _)))
    · exact List.infix_append_of_infix_left
        (List.infix_append_of_infix_right (infix_modulesSlots rt children hbelow))

theorem infix_modulesSlots (rt : String) {path : List String} {f : Facade} :
    ∀ modules : List Module, (path, some f) ∈ placedAll modules →
      facadeSlots rt f <:+: modulesSlots rt modules
  | [], h => by simp [placedAll] at h
  | m :: rest, h => by
    rw [placedAll, List.mem_append] at h
    rw [modulesSlots]
    rcases h with hm | hrest
    · exact List.infix_append_of_infix_left (infix_moduleSlots rt m hm)
    · exact List.infix_append_of_infix_right (infix_modulesSlots rt rest hrest)

end

theorem mem_placed_forest {fs : List Facade} (hdistinct : (fs.map (·.scope)).Nodup) {f : Facade} :
    (∃ path, (path, some f) ∈ placedAll (forest fs)) ↔ f ∈ fs := by
  have harranged := arranged_forest hdistinct
  constructor
  · rintro ⟨path, hmem⟩
    exact ((harranged.facades path _ hmem f).1 rfl).1
  · intro hf
    have hpath : Text.segments f.scope ∈ pathsOf (forest fs) :=
      (harranged.paths _).2 ⟨Text.segments_ne_nil f.scope, f, hf, List.prefix_refl _⟩
    obtain ⟨⟨_, held⟩, hmem, rfl⟩ := List.mem_map.1 hpath
    have hheld := (harranged.facades _ _ hmem f).2 ⟨hf, rfl⟩
    exact ⟨_, hheld ▸ hmem⟩

/-- Every facade has its one place among the modules. -/
theorem placed_facades {fs : List Facade} (hdistinct : (fs.map (·.scope)).Nodup) :
    ((placedAll (forest fs)).filterMap (·.2)).Perm fs := by
  have harranged := arranged_forest hdistinct
  have hplaced : ((placedAll (forest fs)).filterMap (·.2)).Nodup := by
    have honce := harranged.once
    rw [pathsOf, List.Nodup, List.pairwise_map] at honce
    rw [List.Nodup, List.pairwise_filterMap]
    refine honce.imp_of_mem ?_
    rintro ⟨path, _⟩ ⟨other, _⟩ hmem hother hne f rfl g rfl rfl
    have hpath := (harranged.facades path _ hmem f).1 rfl
    have hsame := (harranged.facades other _ hother f).1 rfl
    exact hne (hpath.2.symm.trans hsame.2)
  rw [List.perm_ext_iff_of_nodup hplaced hdistinct.of_map]
  intro f
  rw [← mem_placed_forest hdistinct, List.mem_filterMap]
  constructor
  · rintro ⟨⟨path, _⟩, hmem, rfl⟩
    exact ⟨path, hmem⟩
  · rintro ⟨path, hmem⟩
    exact ⟨_, hmem, rfl⟩

/-- Every help text of the declarations has its two places among the slots. -/
structure HelpPlaces (rt : String) (ds : List Declaration) (slots : List Slot) : Prop where
  /-- No two declarations share a name, so a place tells whose it is. -/
  distinct : (ds.map (·.resolvedName)).Nodup
  /-- There is one place in the options and one in a doc attribute, and no other. -/
  once : (slots.filterMap Slot.place?).Perm
    (ds.flatMap fun d => [(d.resolvedName, .options), (d.resolvedName, .doc)])
  /-- The first is in the constructor of the metric. -/
  constructors : ∀ d ∈ ds, constructorSlots rt d.resolve <:+: slots
  /-- The second is in its accessor. -/
  accessors : ∀ d ∈ ds, accessorSlots rt d.resolve <:+: slots

theorem facadePlaces_perm (f : Facade) : (facadePlaces f).Perm
    (f.metrics.flatMap fun m => [(m.name, .options), (m.name, .doc)]) := by
  have hdocs : f.metrics.map (fun m => (m.name, HelpRole.doc)) =
      f.metrics.flatMap fun m => [(m.name, .doc)] := List.map_eq_flatMap
  rw [facadePlaces, hdocs]
  exact List.map_append_flatMap_perm _ _ _

theorem facadeSlots_within (rt : String) (f : Facade) {m : Resolved} (hm : m ∈ f.metrics) :
    constructorSlots rt m <:+: facadeSlots rt f ∧ accessorSlots rt m <:+: facadeSlots rt f := by
  have hconstructor := infix_flatMap_of_mem (constructorSlots rt) hm
  have haccessor := infix_flatMap_of_mem (accessorSlots rt) hm
  unfold facadeSlots
  exact ⟨List.infix_append_of_infix_left (List.infix_append_of_infix_left
      (List.infix_append_of_infix_left (List.infix_append_of_infix_right hconstructor))),
    List.infix_append_of_infix_left (List.infix_append_of_infix_right haccessor)⟩

theorem helpPlaces_forest {ds : List Declaration} (h : Nameable ds) (rt : String) :
    HelpPlaces rt ds (modulesSlots rt (forest (facades ds))) := by
  have hscopes : ((facades ds).map (·.scope)).Nodup := nodup_scopes_facades
  have hslots {d : Declaration} (hd : d ∈ ds) : ∃ f, d.resolve ∈ f.metrics ∧
      facadeSlots rt f <:+: modulesSlots rt (forest (facades ds)) := by
    obtain ⟨f, hf, -, hmetric⟩ := Live.exists_facade_of_mem hd
    obtain ⟨path, hmem⟩ := (mem_placed_forest hscopes).2 hf
    exact ⟨f, hmetric, infix_modulesSlots rt _ hmem⟩
  refine ⟨h.names_distinct, ?_, ?_, ?_⟩
  · rw [places_modulesSlots]
    have hmetrics : ((facades ds).flatMap facadePlaces).Perm
        (((facades ds).flatMap (·.metrics)).flatMap fun m => [(m.name, .options), (m.name, .doc)]) := by
      rw [List.flatMap_assoc]
      exact List.Perm.flatMap_left _ fun f _ => facadePlaces_perm f
    have hall : ((facades ds).flatMap (·.metrics)).Perm (ds.map (·.resolve)) := facades_whole
    have hwhole := hall.flatMap_right fun m => [(m.name, HelpRole.options), (m.name, HelpRole.doc)]
    rw [List.flatMap_map] at hwhole
    exact ((placed_facades hscopes).flatMap_right facadePlaces).trans (hmetrics.trans hwhole)
  · intro d hd
    obtain ⟨f, hmetric, hinside⟩ := hslots hd
    exact (facadeSlots_within rt f hmetric).1.trans hinside
  · intro d hd
    obtain ⟨f, hmetric, hinside⟩ := hslots hd
    exact (facadeSlots_within rt f hmetric).2.trans hinside

/-! ## Source texts -/

theorem lex_nil : lex [] = some [] := by
  rw [lex, skip, Option.bind_some, lexFrom]
  rfl

theorem lex_header (rest : List Char) : lex (header.toList ++ '\n' :: rest) = lex rest := rfl

theorem lex_codeLine {ts : List Token} (h : Readable ts) : lex (Token.render ts) = some ts := by
  have hread := lex_render h (show Boundary [] from fun _ hc => by cases hc)
  rwa [List.append_nil, lex_nil, Option.map_some, List.append_nil] at hread

theorem codeLine_ne_nil {rt : String} {m : Module} (h : Readable (m.tokens rt)) :
    Token.render (m.tokens rt) ≠ [] := by
  intro hnil
  have hread := lex_codeLine h
  rw [hnil, lex_nil] at hread
  cases m with
  | mk segment facade children => simp [Module.tokens, codes] at hread

section Lines

variable {crateName : String} {fs : List Facade}

/-- The lines of code of a source text, one for each module at the top. -/
def codeLines (crateName : String) (fs : List Facade) : List (List Char) :=
  (forest fs).map fun m => Token.render (m.tokens (written crateName))

theorem source_eq_lines (crateName : String) (fs : List Facade) :
    (source crateName fs).toList =
      header.toList ++ '\n' :: (codeLines crateName fs).flatMap fun l => '\n' :: l ++ ['\n'] := by
  rw [source, String.toList_ofList, codeLines, List.flatMap_map]
  rfl

theorem lex_lines {tokens : List (List Token)} (h : ∀ ts ∈ tokens, Readable ts) :
    lex ((tokens.map Token.render).flatMap fun l => '\n' :: l ++ ['\n']) = some tokens.flatten := by
  induction tokens with
  | nil => exact lex_nil
  | cons ts rest ih =>
    obtain ⟨hts, hrest⟩ := List.forall_mem_cons.1 h
    have hline (behind : List Char) : Boundary ('\n' :: behind) := by simp [Boundary]
    rw [List.map_cons, List.flatMap_cons, List.cons_append, List.cons_append, lex_line,
      List.append_assoc, List.singleton_append, lex_render hts (hline _), lex_line, ih hrest]
    rfl

theorem lex_source (h : ∀ m ∈ forest fs, Readable (m.tokens (written crateName))) :
    lex (source crateName fs).toList =
      some ((forest fs).map (·.tokens (written crateName))).flatten := by
  have htokens := lex_lines (List.forall_mem_map.2 h)
  rw [List.map_map] at htokens
  rw [source_eq_lines, lex_header]
  exact htokens

/-- Lines with an empty one before each, behind a first line. -/
theorem split_lines {first : List Char} {lines : List (List Char)} (hfirst : '\n' ∉ first)
    (hlines : ∀ l ∈ lines, '\n' ∉ l) :
    (first ++ '\n' :: lines.flatMap fun l => '\n' :: l ++ ['\n']).splitOn '\n' =
      first :: (lines.flatMap fun l => [[], l]) ++ [[]] := by
  have hjoined (first : List Char) : first ++ '\n' :: lines.flatMap (fun l => '\n' :: l ++ ['\n']) =
      ['\n'].intercalate (first :: (lines.flatMap fun l => [[], l]) ++ [[]]) := by
    clear hlines
    induction lines generalizing first with
    | nil => simp [List.intercalate]
    | cons l rest ih =>
      have hrest := ih l
      simp only [List.flatMap_cons, List.cons_append, List.nil_append,
        List.intercalate_cons_cons] at hrest ⊢
      rw [← hrest]
      simp
  rw [hjoined, List.splitOn_intercalate '\n' _ (by simp)]
  intro l hl
  rw [List.cons_append, List.mem_cons, List.mem_append, List.mem_flatMap] at hl
  rcases hl with rfl | ⟨line, hline, hin⟩ | hlast
  · exact hfirst
  · rw [List.mem_cons, List.mem_singleton] at hin
    rcases hin with rfl | rfl
    · exact List.not_mem_nil
    · exact hlines _ hline
  · rw [List.mem_singleton.1 hlast]
    exact List.not_mem_nil

theorem split_source (h : ∀ m ∈ forest fs, Readable (m.tokens (written crateName))) :
    (source crateName fs).toList.splitOn '\n' =
      header.toList :: ((codeLines crateName fs).flatMap fun l => [[], l]) ++ [[]] := by
  rw [source_eq_lines]
  exact split_lines (by decide) (List.forall_mem_map.2 fun m hm => line_notMem_render (h m hm))

end Lines

/-- **Help texts stay in their literals.** The source text for declarations that compile is made of
slots, in lines, one for each module at the top. Help texts replaced in any way compile as well, to
a text of the same slots: each place of a help text holds a literal whose value is that text, and
all other tokens are the same. The text is a header line, then an empty line and a line of code for
each module, and nothing else. -/
theorem help_confined {policy : BucketPolicy} {ds : List Declaration} {fs : List Facade}
    {crateName : String} (hcompile : compile policy ds = .ok fs) (hcrate : isCrateName crateName) :
    ∃ lines : List (List Slot), lines.length = (forest fs).length ∧
      HelpPlaces (written crateName) ds lines.flatten ∧
      ∀ es, List.Forall₂ SameButHelp ds es →
        ∃ (gs : List Facade) (text : String) (help : String → String),
          compile policy es = .ok gs ∧ Backend.rust.emit crateName gs = .ok text ∧
          (∀ e ∈ es, help e.resolvedName =
            if Text.isAllBlank e.help then defaultHelp else e.help) ∧
          lex text.toList = some (lines.flatten.map (Slot.fill help)) ∧
          ∃ codeLines : List (List Char),
            text.toList.splitOn '\n' =
              header.toList :: (codeLines.flatMap fun l => [[], l]) ++ [[]] ∧
            List.Forall₂ (fun slots l => l ≠ [] ∧ lex l = some (slots.map (Slot.fill help)))
              lines codeLines := by
  obtain ⟨rfl, hnameable, hsound⟩ := compile_ok hcompile
  obtain ⟨hnone, -⟩ := compile_eq_ok_iff.1 hcompile
  have hrt : Identifier (written crateName) := written_identifier (TokenLibrary.bare_crate hcrate)
  refine ⟨(forest (facades ds)).map (moduleSlots (written crateName)), by simp, ?_, ?_⟩
  · rw [← List.flatMap_def, ← modulesSlots_eq]
    exact helpPlaces_forest hnameable _
  intro es hes
  obtain ⟨raw, rfl, hraw⟩ := exists_withHelp hnameable.names_distinct hes
  have hcompiles : compile policy (ds.map (·.withHelp raw)) =
      .ok (facades (ds.map (·.withHelp raw))) := by
    rw [compile_eq_ok_iff, violations_withHelp]
    exact ⟨hnone, rfl⟩
  obtain ⟨-, hnameable', hsound'⟩ := compile_ok hcompiles
  have hreadable : ∀ m ∈ forest (facades (ds.map (·.withHelp raw))),
      Readable (m.tokens (written crateName)) :=
    fun m hm => readable_module hrt ((forest_wellNamed hnameable' hsound').2 m hm)
  have htokens := forest_withHelp (fun name => shownHelp (raw name)) (written crateName) (facades ds)
  rw [← facades_withHelp] at htokens
  refine ⟨_, source crateName (facades (ds.map (·.withHelp raw))),
    fun name => shownHelp (raw name), hcompiles, ?_, ?_, ?_, codeLines crateName _,
    split_source hreadable, ?_⟩
  · rw [Backend.emit, Backend.emitRust, if_pos hcrate]
  · intro e he
    exact congrArg shownHelp (hraw e he)
  · rw [lex_source hreadable, htokens, List.map_flatten, List.map_map]
    rfl
  · have hlines := congrArg (List.map Token.render) htokens
    rw [List.map_map, List.map_map] at hlines
    have hcode : codeLines crateName (facades (ds.map (·.withHelp raw))) = _ := hlines
    rw [hcode, List.forall₂_map_left_iff, List.forall₂_map_right_iff, List.forall₂_same]
    intro m hm
    have hin := htokens ▸ List.mem_map_of_mem hm
    obtain ⟨n, hn, hfilled⟩ := List.mem_map.1 hin
    rw [Function.comp_apply, ← hfilled]
    exact ⟨codeLine_ne_nil (hreadable n hn), lex_codeLine (hreadable n hn)⟩

/-- One metric with a help text and one without. -/
def repliesSample : List Declaration :=
  [⟨"http", "Replies", .counter, none, "Replies sent", ["code"], []⟩,
   ⟨"http::pool", "Idle", .gauge, none, " ", [], []⟩]

/-- Help texts that look like code, break lines, and hold a NUL before a digit. -/
def forgedSample : List Declaration :=
  [⟨"http", "Replies", .counter, none, "\"]\n#[doc = \"\\", ["code"], []⟩,
   ⟨"http::pool", "Idle", .gauge, none, "\x007\r// \u200e", [], []⟩]

theorem forgedSample_confined :
    compile .strict repliesSample = .ok (facades repliesSample) ∧ isCrateName defaultCrate ∧
      List.Forall₂ SameButHelp repliesSample forgedSample ∧
      ∃ (slots : List Slot) (text : String) (help : String → String),
        HelpPlaces (written defaultCrate) repliesSample slots ∧
        Backend.rust.emit defaultCrate (facades forgedSample) = .ok text ∧
        lex text.toList = some (slots.map (Slot.fill help)) ∧
        help "Replies" = "\"]\n#[doc = \"\\" ∧ help "Idle" = "\x007\r// \u200e" ∧
        (text.toList.splitOn '\n').length = 4 := by
  have hcompile : compile .strict repliesSample = .ok (facades repliesSample) :=
    compile_eq_ok_iff.2 ⟨by decide +kernel, rfl⟩
  have hcrate : isCrateName defaultCrate := by decide
  have hsame : List.Forall₂ SameButHelp repliesSample forgedSample :=
    .cons ⟨_, rfl⟩ (.cons ⟨_, rfl⟩ .nil)
  obtain ⟨lines, hlength, hplaces, hreplaced⟩ := help_confined hcompile hcrate
  obtain ⟨gs, text, help, hgs, htext, hhelp, hlex, codeLines, hsplit, hlines⟩ :=
    hreplaced forgedSample hsame
  have hone : lines.length = 1 := hlength.trans (by decide +kernel)
  have hreplies := hhelp forgedSample[0] (by simp [forgedSample])
  have hidle := hhelp forgedSample[1] (by simp [forgedSample])
  rw [(compile_eq_ok_iff.1 hgs).2] at htext
  refine ⟨hcompile, hcrate, hsame, lines.flatten, text, help, hplaces, htext, hlex, ?_, ?_, ?_⟩
  · exact hreplies.trans (by decide +kernel)
  · exact hidle.trans (by decide +kernel)
  · rw [hsplit]
    have hcode : codeLines.length = 1 := hlines.length_eq ▸ hone
    match codeLines, hcode with
    | [_], _ => rfl

end Rust

end MetricFacade
