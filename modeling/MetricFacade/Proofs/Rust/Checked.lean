import MetricFacade.Proofs.Rust.WellNamed
import MetricFacade.Rust.Checked

/-!
# The backends are never stopped

The library that tokens are built with is known by its documentation only: it takes words
that are identifiers and doubles that are finite. What compiled asks for nothing else, so with
the library's checks the backends give what they give without them.

Results:

* `buildDescription_eq_ok_iff`: which descriptions any library lets through, and that they are the
  descriptions meant.
* `buildItems_eq`, `buildModule_eq`: the items of a namespace and the modules are built.
* `buildSource_eq`, `buildDescription_eq`: so are both outputs.
* `output_wellNamed`: the whole of it, for everything that compiles.
-/
namespace MetricFacade.Rust

open Check Ident MetricFacade.Metric

namespace TokenLibrary

/-- What the library is documented to take. -/
structure Documented (lib : TokenLibrary) : Prop where
  identifier : ∀ s, Bare s → lib.identifier s
  rawIdentifier : ∀ s, Bare s → lib.rawIdentifier s
  double : ∀ x, x.isFinite → lib.double x

variable {lib : TokenLibrary}

theorem mapM_eq_ok {α β : Type} {f : α → Except Panic β} {g : α → β} {l : List α}
    (h : ∀ a ∈ l, f a = .ok (g a)) : l.mapM f = .ok (l.map g) := by
  induction l with
  | nil => rfl
  | cons a l ih =>
    rw [List.mapM_cons, h a (by simp), ih fun b hb => h b (List.mem_cons_of_mem a hb)]
    rfl

theorem ok_bind {α β : Type} (a : α) (f : α → Except Panic β) : (Except.ok a >>= f) = f a := rfl

theorem bind_eq_ok_iff {α β : Type} {x : Except Panic α} {f : α → Except Panic β} {b : β} :
    (x >>= f) = .ok b ↔ ∃ a, x = .ok a ∧ f a = .ok b := by
  cases x <;> simp [Bind.bind, Except.bind]

theorem pure_eq_ok_iff {α : Type} {a b : α} : (pure a : Except Panic α) = .ok b ↔ b = a := by
  simp [Pure.pure, Except.pure, eq_comm]

/-- A list is built if each of its items is, and then from what the items are built to. -/
theorem mapM_eq_ok_iff {α β : Type} {f : α → Except Panic β} {p : α → Prop} {g : α → β}
    (h : ∀ a b, f a = .ok b ↔ p a ∧ b = g a) {l : List α} {bs : List β} :
    l.mapM f = .ok bs ↔ (∀ a ∈ l, p a) ∧ bs = l.map g := by
  induction l generalizing bs with
  | nil => simp [pure_eq_ok_iff]
  | cons a l ih =>
    simp only [List.mapM_cons, bind_eq_ok_iff, pure_eq_ok_iff, h, ih, List.forall_mem_cons,
      List.map_cons]
    constructor
    · rintro ⟨_, ⟨hp, rfl⟩, _, ⟨hall, rfl⟩, rfl⟩
      exact ⟨⟨hp, hall⟩, rfl⟩
    · rintro ⟨⟨hp, hall⟩, rfl⟩
      exact ⟨_, ⟨hp, rfl⟩, _, ⟨hall, rfl⟩, rfl⟩

/-- So is what is made of the list. -/
theorem return_mapM_eq_ok_iff {α β γ : Type} {f : α → Except Panic β} {p : α → Prop} {g : α → β}
    (h : ∀ a b, f a = .ok b ↔ p a ∧ b = g a) (whole : List β → γ) {l : List α} {c : γ} :
    (do return whole (← l.mapM f)) = .ok c ↔ (∀ a ∈ l, p a) ∧ c = whole (l.map g) := by
  simp only [bind_eq_ok_iff, pure_eq_ok_iff, mapM_eq_ok_iff h]
  constructor
  · rintro ⟨_, ⟨hall, rfl⟩, rfl⟩
    exact ⟨hall, rfl⟩
  · rintro ⟨hall, rfl⟩
    exact ⟨_, ⟨hall, rfl⟩, rfl⟩

/-! ## Identifiers and literals -/

/-- The library takes the identifier for the name. -/
def Takes (lib : TokenLibrary) (name : String) : Prop :=
  if isKeyword (escaped name) then lib.rawIdentifier (escaped name)
  else lib.identifier (escaped name)

/-- The library is the only one to refuse a name, and has no say in how it is written. -/
theorem buildIdent_eq_ok_iff {name word : String} :
    lib.buildIdent name = .ok word ↔ lib.Takes name ∧ word = written name := by
  rw [buildIdent, Takes, written]
  by_cases hkeyword : isKeyword (escaped name)
  · simp only [if_pos hkeyword]
    split <;> simp [*, eq_comm]
  · simp only [if_neg hkeyword]
    split <;> simp [*, eq_comm]

theorem Documented.takes (hlib : lib.Documented) {name : String} (h : Bare (escaped name)) :
    lib.Takes name := by
  rw [Takes]
  split
  · exact hlib.rawIdentifier _ h
  · exact hlib.identifier _ h

theorem buildIdent_eq (hlib : lib.Documented) {name : String} (h : Bare (escaped name)) :
    lib.buildIdent name = .ok (written name) :=
  buildIdent_eq_ok_iff.2 ⟨hlib.takes h, rfl⟩

theorem buildMember_eq (hlib : lib.Documented) {name : String}
    (h : Bare (escaped (Text.snakeCase name))) :
    lib.buildMember name = .ok (writtenMember name) := by
  rw [buildMember, buildIdent_eq hlib h, writtenMember]

theorem buildDouble_eq (hlib : lib.Documented) {x : Float} (h : x.isFinite) :
    lib.buildDouble x = .ok x :=
  if_pos (hlib.double x h)

theorem buildDoubles_eq (hlib : lib.Documented) {values : List Float}
    (h : ∀ v ∈ values, v.isFinite) : values.mapM lib.buildDouble = .ok values := by
  have hvalues : values.mapM lib.buildDouble = .ok (values.map id) :=
    mapM_eq_ok fun v hv => buildDouble_eq hlib (h v hv)
  rwa [List.map_id] at hvalues

theorem buildBuckets_eq (hlib : lib.Documented) {spec : Bucket.Spec}
    (h : (BucketCall.ofSpec spec).Finite) :
    lib.buildBuckets spec = .ok (BucketCall.ofSpec spec) := by
  cases spec with
  | explicit values =>
    have hvalues : values.mapM lib.buildDouble = .ok values := buildDoubles_eq hlib h
    simp only [buildBuckets, Bucket.Spec.bounds, hvalues]
    rfl
  | exponential start factor count =>
    rw [buildBuckets, buildDouble_eq hlib h.1, buildDouble_eq hlib h.2]
    rfl
  | linear start width count =>
    rw [buildBuckets, buildDouble_eq hlib h.1, buildDouble_eq hlib h.2]
    rfl
  | standard =>
    have hladder : Bucket.standardLadder.mapM lib.buildDouble = .ok Bucket.standardLadder :=
      buildDoubles_eq hlib h
    simp only [buildBuckets, Bucket.Spec.bounds, hladder]
    rfl

/-! ## One namespace -/

theorem buildConstructor_eq (hlib : lib.Documented) {m : Resolved} (h : Spelled m) :
    lib.buildConstructor m = .ok (Constructor.ofMetric m) := by
  have hbuckets : m.buckets.mapM lib.buildBuckets = .ok (m.buckets.map BucketCall.ofSpec) := by
    cases hspec : m.buckets with
    | none => rfl
    | some spec =>
      rw [Option.mapM_some, buildBuckets_eq hlib (h.literals spec hspec)]
      rfl
  rw [buildConstructor, buildMember_eq hlib h.field, ok_bind, hbuckets, ok_bind,
    Constructor.ofMetric]
  rfl

theorem buildAccessor_eq (hlib : lib.Documented) {m : Resolved} (h : Spelled m) :
    lib.buildAccessor m = .ok (Accessor.ofMetric m) := by
  have hparams :
      (m.labels.zipIdx.mapM fun entry => lib.buildIdent (Ident.param entry.1 entry.2)) =
        .ok (paramNames m.labels) := by
    refine mapM_eq_ok fun entry hentry => buildIdent_eq hlib ?_
    have hbare := h.params _ (List.mem_map.2 ⟨entry, hentry, rfl⟩)
    rwa [escaped_of_bare hbare]
  rw [buildAccessor, buildMember_eq hlib h.accessor, ok_bind, buildMember_eq hlib h.field,
    ok_bind, hparams, ok_bind, Accessor.ofMetric]
  rfl

theorem buildItems_eq (hlib : lib.Documented) {f : Facade} (h : ∀ m ∈ f.metrics, Spelled m) :
    lib.buildItems f = .ok (FacadeItems.ofFacade f) := by
  have htype : Bare (escaped Facade.typeName) :=
    bare_escaped (isWord_iff.1 (by decide)) (by decide)
  rw [buildItems, buildIdent_eq hlib htype, ok_bind,
    mapM_eq_ok fun m hm => buildConstructor_eq hlib (h m hm), ok_bind,
    mapM_eq_ok fun m hm => buildAccessor_eq hlib (h m hm), ok_bind, FacadeItems.ofFacade]
  rfl

/-! ## Modules -/

theorem buildModules_eq {rt : String} {modules : List Module}
    (h : ∀ m ∈ modules, lib.buildModule rt m = .ok (m.tokens rt)) :
    lib.buildModules rt modules = .ok (modulesTokens rt modules) := by
  induction modules with
  | nil =>
    rw [buildModules, modulesTokens]
    rfl
  | cons m rest ih =>
    rw [buildModules, h m (by simp), ih fun n hn => h n (List.mem_cons_of_mem m hn), modulesTokens]
    rfl

theorem buildModule_eq (hlib : lib.Documented) {rt segment : String} {facade : Option Facade}
    {children : List Module} (hname : Bare (escaped segment))
    (hitems : ∀ f ∈ facade, ∀ m ∈ f.metrics, Spelled m)
    (hbelow : ∀ m ∈ children, lib.buildModule rt m = .ok (m.tokens rt)) :
    lib.buildModule rt (.mk segment facade children) =
      .ok ((Module.mk segment facade children).tokens rt) := by
  have hfacade : facade.mapM lib.buildItems = .ok (facade.map FacadeItems.ofFacade) := by
    cases hf : facade with
    | none => rfl
    | some f =>
      rw [Option.mapM_some, buildItems_eq hlib (hitems f hf)]
      rfl
  rw [buildModule, buildIdent_eq hlib hname, ok_bind, hfacade, ok_bind, buildModules_eq hbelow,
    ok_bind, Module.tokens, Option.map_map]
  rfl

theorem modulesAt_built (hlib : lib.Documented) {rt : String} {routes : List Route}
    (h : Routable (fun f => ∀ m ∈ f.metrics, Spelled m) routes) (depth : Nat) :
    ∀ m ∈ modulesAt depth routes, lib.buildModule rt m = .ok (m.tokens rt) := by
  induction depth generalizing routes with
  | zero => simp [modulesAt]
  | succ depth ih =>
    intro m hm
    obtain ⟨segment, facade, below, rfl, hname, hitems, hbelow⟩ := mem_modulesAt h hm
    exact buildModule_eq hlib hname hitems (ih hbelow)

/-! ## Outputs -/

theorem buildSource_eq (hlib : lib.Documented) {crateName : String} {fs : List Facade}
    (hcrate : Bare (escaped crateName))
    (hforest : ∀ m ∈ forest fs, lib.buildModule (written crateName) m =
      .ok (m.tokens (written crateName))) :
    lib.buildSource crateName fs = .ok (source crateName fs) := by
  have hlines : ((forest fs).mapM fun m => do
      return '\n' :: Token.render (← lib.buildModule (written crateName) m) ++ ['\n']) =
      .ok ((forest fs).map fun m =>
        '\n' :: Token.render (m.tokens (written crateName)) ++ ['\n']) := by
    refine mapM_eq_ok fun m hm => ?_
    rw [hforest m hm]
    rfl
  rw [buildSource, buildIdent_eq hlib hcrate, ok_bind, hlines, ok_bind, source, moduleLines,
    List.flatMap_def]
  rfl

/-- The library takes both identifiers of the metric. -/
structure TakesMetric (lib : TokenLibrary) (m : Resolved) : Prop where
  accessor : lib.Takes (Text.snakeCase m.accessor)
  field : lib.Takes (Text.snakeCase m.field)

theorem describeMetric_eq_ok_iff (m : Resolved) (v : Json.Value) :
    lib.describeMetric m = .ok v ↔ lib.TakesMetric m ∧ v = Description.ofMetric m := by
  simp only [describeMetric, bind_eq_ok_iff, pure_eq_ok_iff, buildMember, buildIdent_eq_ok_iff]
  constructor
  · rintro ⟨_, ⟨haccessor, rfl⟩, _, ⟨hfield, rfl⟩, rfl⟩
    exact ⟨⟨haccessor, hfield⟩, rfl⟩
  · rintro ⟨⟨haccessor, hfield⟩, rfl⟩
    exact ⟨_, ⟨haccessor, rfl⟩, _, ⟨hfield, rfl⟩, rfl⟩

theorem describeFacade_eq_ok_iff (f : NamedFacade) (v : Json.Value) :
    lib.describeFacade f = .ok v ↔
      (∀ m ∈ f.metrics, lib.TakesMetric m) ∧ v = Description.ofFacade f :=
  return_mapM_eq_ok_iff describeMetric_eq_ok_iff (Description.facadeValue f)

/-- Whatever the library takes, it lets the one description through or none. -/
theorem buildDescription_eq_ok_iff {fs : List NamedFacade} {text : String} :
    lib.buildDescription fs = .ok text ↔
      (∀ f ∈ fs, ∀ m ∈ f.metrics, lib.TakesMetric m) ∧ text = Description.source fs :=
  return_mapM_eq_ok_iff describeFacade_eq_ok_iff fun vs =>
    Description.print (Description.facadesValue vs)

theorem buildDescription_eq (hlib : lib.Documented) {fs : List Facade}
    (h : ∀ f ∈ fs, ∀ m ∈ f.metrics, Spelled m) :
    lib.buildDescription (fs.map Facade.named) =
      .ok (Description.source (fs.map Facade.named)) := by
  refine buildDescription_eq_ok_iff.2 ⟨List.forall_mem_map.2 fun f hf m hm => ?_, rfl⟩
  exact ⟨hlib.takes (h f hf m hm).accessor, hlib.takes (h f hf m hm).field⟩

theorem bare_crate {crateName : String} (h : isCrateName crateName) :
    Bare (escaped crateName) := by
  rw [isCrateName, Bool.and_eq_true, bne_iff_ne] at h
  exact bare_escaped (isWord_iff.1 h.1) h.2

/-- **Whatever compiles is emitted, and well named.** Neither backend fails or is stopped by
the token library, and both give the text they are meant to give; in the source text every
identifier is one, no two that stand side by side are the same, and every literal is finite. -/
theorem output_wellNamed {policy : BucketPolicy} {ds : List Declaration} {fs : List Facade}
    {crateName : String} (hcompile : compile policy ds = .ok fs)
    (hcrate : isCrateName crateName) (hlib : lib.Documented) :
    (∀ b : Backend, ∃ text, lib.emit b crateName fs = .ok (.ok text) ∧
      b.emit crateName fs = .ok text) ∧
      Identifier (written crateName) ∧ WellNamedForest (forest fs) := by
  obtain ⟨rfl, hnameable, hsound⟩ := compile_ok hcompile
  have hspelled : ∀ f ∈ facades ds, ∀ m ∈ f.metrics, Spelled m :=
    fun _ hf => spelled_of_mem_facades hnameable hsound hf
  have hbare := bare_crate hcrate
  refine ⟨?_, written_identifier hbare, forest_wellNamed hnameable hsound⟩
  intro b
  cases b with
  | rust =>
    have hbuilt := buildSource_eq hlib hbare
      (modulesAt_built hlib (routable_facades hnameable hspelled) _)
    refine ⟨source crateName (facades ds), ?_, ?_⟩
    · rw [emit, if_pos hcrate, hbuilt]
      rfl
    · rw [Backend.emit, Backend.emitRust, if_pos hcrate]
  | json =>
    refine ⟨Description.source ((facades ds).map Facade.named), ?_, rfl⟩
    rw [emit, buildDescription_eq hlib hspelled]
    rfl

/-- A library that takes words as identifiers and follows its documentation in all else. -/
def ofWords : TokenLibrary where
  identifier := isWord
  rawIdentifier s := isWord s && s != "_" && !pathKeywords.contains s
  double := Float.isFinite

theorem documented_ofWords : ofWords.Documented where
  identifier := fun _ h => isWord_iff.2 h.1
  rawIdentifier := by
    intro s ⟨hword, hlone, hpath⟩
    simp [ofWords, isWord_iff.2 hword, hlone, hpath]
  double := fun _ h => h

/-- Keywords as a namespace, as an accessor and as a label, and a ladder. -/
def keywordSample : List Declaration :=
  [⟨"type", "Match", .counter, none, "", ["self", "_", "camelCase"], []⟩,
   ⟨"type::self", "Latency", .histogram, some "latency seconds", "", [], [.exponential 0.5 2 4]⟩]

theorem keywordSample_wellNamed :
    compile .strict keywordSample = .ok (facades keywordSample) ∧ isCrateName "crate" ∧
      ofWords.Documented ∧ Identifier (written "crate") ∧
      WellNamedForest (forest (facades keywordSample)) := by
  have hcompile : compile .strict keywordSample = .ok (facades keywordSample) :=
    compile_eq_ok_iff.2 ⟨by decide +kernel, rfl⟩
  have hcrate : isCrateName "crate" := by decide
  exact ⟨hcompile, hcrate, documented_ofWords,
    (output_wellNamed hcompile hcrate documented_ofWords).2⟩

end TokenLibrary

end MetricFacade.Rust
