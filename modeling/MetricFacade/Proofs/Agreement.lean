import MetricFacade.Proofs.Description
import MetricFacade.Proofs.Rust.HelpTexts
import MetricFacade.Proofs.Rust.Namespaces

/-!
# Code and description agree

What a description says of a facade is also what generated code says of it. Both are taken from
their texts: the description is parsed, and the code is lexed and the module of the facade is looked
up in it.

Results:

* `asks_ofSpec`, `builtAs_ofMetric`, `handedOutBy_ofMetric`: one metric, in both texts.
* `backends_agree`: all facades of a set that compiles.
-/
namespace MetricFacade

open Description Json MetricFacade.Metric Rust

/-! ## What agreeing means -/

/-- The call asks for the buckets that are described: by its arguments where the description has
parameters, and by all bounds otherwise. -/
inductive Asks : BucketCall → BucketAccount → Prop where
  | explicit (values : List Float) : Asks (.bounds values) ⟨.explicit, none, values⟩
  | standard (values : List Float) : Asks (.bounds values) ⟨.standard, none, values⟩
  | exponential (start factor : Float) (count : Nat) (bounds : List Float) :
    Asks (.exponential start factor count)
      ⟨.exponential, some (.exponential start factor count), bounds⟩
  | linear (start width : Float) (count : Nat) (bounds : List Float) :
    Asks (.linear start width count) ⟨.linear, some (.linear start width count), bounds⟩

/-- The type that holds a metric that is described so. -/
def Description.MetricAccount.handle (a : MetricAccount) : String :=
  if a.labels.isEmpty then a.kind.name else a.kind.name ++ "Vec"

/-- The metric that is described is the one that is built. -/
structure BuiltAs (a : MetricAccount) (c : Constructor) : Prop where
  field : c.field = a.field
  handle : c.handle = a.handle
  options : c.forHistogram = true ↔ a.kind = .histogram
  name : c.name = a.name
  help : c.help = a.help
  labels : c.labels = a.labels
  plain : c.buckets = none ↔ a.buckets = none
  asks : ∀ call ∈ c.buckets, ∃ b ∈ a.buckets, Asks call b

/-- The metric that is described is the one that the method hands out. -/
structure HandedOutBy (a : MetricAccount) (m : Method) : Prop where
  accessor : m.name = a.accessor
  output : m.output = a.kind.name
  /-- There is a parameter for each label that is described, in order. -/
  params : m.params = paramNames a.labels
  body : m.body = if a.labels.isEmpty then .handle a.field
    else .child (toString a.labels.length) (paramNames a.labels) a.field

/-- The facade that is described is the one that is declared: the metrics come in the same order
among the fields, the constructors and the methods, and there are no others. -/
structure Agrees (a : FacadeAccount) (o : Outline) : Prop where
  fields : o.fields = a.metrics.map fun m => (m.field, m.handle)
  constructors : List.Forall₂ BuiltAs a.metrics o.constructors
  methods : List.Forall₂ HandedOutBy a.metrics o.methods

/-! ## One metric -/

theorem asks_ofSpec (spec : Bucket.Spec) : Asks (BucketCall.ofSpec spec) (accountBuckets spec) := by
  cases spec with
  | explicit values => exact .explicit values
  | exponential start factor count => exact .exponential start factor count _
  | linear start width count => exact .linear start width count _
  | standard => exact .standard _

/-- Only a histogram has buckets. -/
theorem builtAs_ofMetric {m : Resolved} (h : m.buckets.isSome → m.kind = .histogram) :
    BuiltAs (accountMetric m) (Constructor.ofMetric m) := by
  have hoptions : (decide (m.kind = .histogram) || m.buckets.isSome) = true ↔
      m.kind = .histogram := by
    rw [Bool.or_eq_true, decide_eq_true_eq]
    exact ⟨fun hhistogram => hhistogram.elim id h, .inl⟩
  have hasks : ∀ call ∈ m.buckets.map BucketCall.ofSpec,
      ∃ b ∈ m.buckets.map accountBuckets, Asks call b := by
    intro call hcall
    obtain ⟨spec, hspec, rfl⟩ := Option.map_eq_some_iff.1 hcall
    exact ⟨_, Option.map_eq_some_iff.2 ⟨spec, hspec, rfl⟩, asks_ofSpec spec⟩
  rw [Constructor.ofMetric, accountMetric]
  exact {
    field := rfl
    handle := by simp only [handleType, MetricAccount.handle]
    options := hoptions
    name := rfl
    help := rfl
    labels := rfl
    plain := by rw [Option.map_eq_none_iff, Option.map_eq_none_iff]
    asks := hasks }

theorem handedOutBy_ofMetric (m : Resolved) :
    HandedOutBy (accountMetric m) (Accessor.ofMetric m).toMethod := by
  have hempty : (paramNames m.labels).isEmpty = m.labels.isEmpty := by
    rw [Bool.eq_iff_iff, List.isEmpty_iff_length_eq_zero, List.isEmpty_iff_length_eq_zero,
      length_paramNames]
  rw [Accessor.toMethod, Accessor.body, name_accessor, field_accessor, params_accessor, hempty,
    length_paramNames, Accessor.ofMetric, accountMetric]
  exact {
    accessor := rfl
    output := rfl
    params := rfl
    body := by dsimp only }

/-! ## All facades -/

theorem agrees_ofFacade {f : Facade}
    (h : ∀ m ∈ f.metrics, m.buckets.isSome → m.kind = .histogram) :
    Agrees (account f) (FacadeItems.ofFacade f).outline := by
  have hbuilt : ∀ m ∈ f.metrics, BuiltAs (accountMetric m) (Constructor.ofMetric m) :=
    fun m hm => builtAs_ofMetric (h m hm)
  have hfields : ((f.metrics.map Constructor.ofMetric).map fun c => (c.field, c.handle)) =
      (f.metrics.map accountMetric).map fun m => (m.field, m.handle) := by
    rw [List.map_map, List.map_map]
    refine List.map_congr_left fun m hm => ?_
    simp only [Function.comp_apply, (hbuilt m hm).field, (hbuilt m hm).handle]
  have hconstructors : List.Forall₂ BuiltAs (f.metrics.map accountMetric)
      (f.metrics.map Constructor.ofMetric) := by
    rw [List.forall₂_map_left_iff, List.forall₂_map_right_iff, List.forall₂_same]
    exact hbuilt
  have hmethods : List.Forall₂ HandedOutBy (f.metrics.map accountMetric)
      ((f.metrics.map Accessor.ofMetric).map (·.toMethod)) := by
    rw [List.map_map, List.forall₂_map_left_iff, List.forall₂_map_right_iff, List.forall₂_same]
    exact fun m _ => handedOutBy_ofMetric m
  rw [account, accountNamed, Facade.named, FacadeItems.outline, FacadeItems.ofFacade]
  exact ⟨hfields, hconstructors, hmethods⟩

section Compiled

variable {policy : BucketPolicy} {ds : List Declaration} {fs : List Facade}

theorem histogram_of_buckets {f : Facade} (hf : f ∈ facades ds) :
    ∀ m ∈ f.metrics, m.buckets.isSome → m.kind = .histogram := by
  rw [(mem_facades.1 hf).2, List.forall_mem_map]
  intro d _ hsome
  by_contra hkind
  have hnone : d.resolve.buckets = none := if_neg hkind
  rw [hnone] at hsome
  cases hsome

theorem buckets_ne_nil (hsound : ∀ d ∈ ds, ∀ spec ∈ d.resolvedBuckets, spec.Sound) {f : Facade}
    (hf : f ∈ facades ds) :
    ∀ c ∈ (FacadeItems.ofFacade f).constructors, c.buckets ≠ some (.bounds []) := by
  rw [constructors_eq hf, List.forall_mem_map]
  intro d hd hnil
  obtain ⟨spec, hspec, hcall⟩ := Option.map_eq_some_iff.1 hnil
  exact ofSpec_ne_nil (hsound d (mem_declaredIn hd) spec hspec) hcall

/-- The items of a facade are found in the tokens of the source text. -/
theorem outline_of_tokens (hnameable : Nameable ds)
    (hsound : ∀ d ∈ ds, ∀ spec ∈ d.resolvedBuckets, spec.Sound) {rt : String}
    (hrt : Ident.Identifier rt) {f : Facade} (hf : f ∈ facades ds) :
    (itemsAt ((Text.segments f.scope).map Ident.written)
        ((forest (facades ds)).map (·.tokens rt)).flatten).bind (readNamespace Facade.typeName) =
      some (FacadeItems.ofFacade f).outline := by
  obtain ⟨path, hplaced⟩ := (mem_placed_forest nodup_scopes_facades).2 hf
  obtain ⟨-, rfl⟩ := ((arranged_forest nodup_scopes_facades).facades path _ hplaced f).1 rfl
  obtain ⟨others, hitems⟩ := itemsAt_placed hrt (forest_wellNamed hnameable hsound) hplaced
    (List.forall_mem_nil Item) (fun segment => List.forall_mem_nil _)
  rw [List.nil_append] at hitems
  rw [hitems, Option.bind_some]
  exact FacadeItems.readNamespace_items hrt (FacadeItems.wellNamed hnameable hsound hf)
    (typesNamed_ofFacade f) (buckets_ne_nil hsound hf) others

/-- **The backends describe the same facades.** For a set that compiles, both texts are emitted. The
description is parsed into an account of each facade. The code is lexed, and where the modules
that are named after the namespace lead, the items of the facade say what its account says: the
same metrics in the same order, with the same identifiers, the same texts, types that fit, and
buckets that are asked for as they are described. -/
theorem backends_agree {crateName : String} (hcompile : compile policy ds = .ok fs)
    (hcrate : isCrateName crateName) {number : Bool → NumberParts → Node}
    (hnumber : Inverse number) :
    ∃ (source description : String) (tokens : List Token),
      Backend.rust.emit crateName fs = .ok source ∧
      Backend.json.emit crateName fs = .ok description ∧
      Lexer.lex source.toList = some tokens ∧
      (parse? number description).bind readFacades = some (fs.map account) ∧
      ∀ a ∈ fs.map account, ∃ outline,
        (itemsAt ((Text.segments a.scope).map Ident.written) tokens).bind
          (readNamespace a.typeName) = some outline ∧ Agrees a outline := by
  obtain ⟨rfl, hnameable, hsound⟩ := compile_ok hcompile
  have hrt : Ident.Identifier (Ident.written crateName) :=
    Ident.written_identifier (TokenLibrary.bare_crate hcrate)
  have hreadable : ∀ m ∈ forest (facades ds), Readable (m.tokens (Ident.written crateName)) :=
    fun m hm => readable_module hrt ((forest_wellNamed hnameable hsound).2 m hm)
  refine ⟨Rust.source crateName (facades ds), _, _, ?_, rfl, lex_source hreadable, ?_, ?_⟩
  · rw [Backend.emit, Backend.emitRust, if_pos hcrate]
  · rw [read_source hnumber (finite_of_compile hcompile), List.map_map]
    rfl
  · rw [List.forall_mem_map]
    intro f hf
    exact ⟨_, outline_of_tokens hnameable hsound hrt hf, agrees_ofFacade (histogram_of_buckets hf)⟩

end Compiled

/-- Every kind of bucket, names that are words of the language, and a namespace inside another. -/
def shopSample : List Declaration :=
  [⟨"shop::type", "Latency", .histogram, none, "Seconds", ["self", "_"], [.exponential 0.005 2 10]⟩,
   ⟨"shop", "Type", .counter, some "orders total", "\"Orders\"", ["type"], []⟩,
   ⟨"shop::type", "Load", .histogram, none, "", [], [.linear (-1) 0.5 4]⟩,
   ⟨"shop", "Self", .gauge, none, "", [], []⟩,
   ⟨"shop::type", "Size", .histogram, none, "", [], [.explicit [0.1, 2]]⟩,
   ⟨"shop::type", "Wait", .histogram, none, "", ["code"], []⟩]

theorem shopSample_agrees :
    compile .strict shopSample = .ok (facades shopSample) ∧ isCrateName defaultCrate ∧
      ∃ (source description : String) (tokens : List Token) (outline : Outline),
        Backend.rust.emit defaultCrate (facades shopSample) = .ok source ∧
        Backend.json.emit defaultCrate (facades shopSample) = .ok description ∧
        Lexer.lex source.toList = some tokens ∧
        (parse? NumberParts.nearest description).bind readFacades =
          some ((facades shopSample).map account) ∧
        (itemsAt ["shop", "r#type"] tokens).bind (readNamespace "Metrics") = some outline ∧
        outline.fields = [("latency_histogram", "HistogramVec"), ("load_histogram", "Histogram"),
          ("size_histogram", "Histogram"), ("wait_histogram", "HistogramVec")] := by
  have hcompile : compile .strict shopSample = .ok (facades shopSample) :=
    compile_eq_ok_iff.2 ⟨by decide +kernel, rfl⟩
  have hcrate : isCrateName defaultCrate := by decide
  obtain ⟨source, description, tokens, hsource, hdescription, hlex, hparse, hagrees⟩ :=
    backends_agree hcompile hcrate inverse_nearest
  have haccount : ∃ a ∈ (facades shopSample).map account,
      (Text.segments a.scope).map Ident.written = ["shop", "r#type"] ∧ a.typeName = "Metrics" ∧
        (a.metrics.map fun m => (m.field, m.handle)) = [("latency_histogram", "HistogramVec"),
          ("load_histogram", "Histogram"), ("size_histogram", "Histogram"),
          ("wait_histogram", "HistogramVec")] := by
    decide +kernel
  obtain ⟨a, ha, hpath, htype, hfields⟩ := haccount
  obtain ⟨outline, houtline, hsame⟩ := hagrees a ha
  rw [hpath, htype] at houtline
  exact ⟨hcompile, hcrate, source, description, tokens, outline, hsource, hdescription, hlex,
    hparse, houtline, hsame.fields.trans hfields⟩

end MetricFacade
