import MetricFacade.Proofs.Number.Notation
import MetricFacade.Proofs.Rust.Lexing
import MetricFacade.Proofs.Rust.Statics

/-!
# Generated code can be read back

Generated code is made of words and marks of the language, of names that are identifiers, of
numbers, and of texts, which can be anything. All of these are legible.

Results:

* `legible_plain`, `readable_double`: fixed words, marks and numbers.
* `FacadeItems.readable_tokens`: the items of a namespace.
* `readable_module`: a module with all that is in it.
-/
namespace MetricFacade.Rust

open Check Ident Lexer Token MetricFacade.Metric

/-- Every token is legible. -/
def Readable (ts : List Token) : Prop :=
  ∀ t ∈ ts, Legible t

/-! ## Words, marks and numbers -/

/-- A word, or a mark that begins no comment. -/
def isPlain (spelling : String) : Bool :=
  isWord spelling || (spelling ∈ marks && spelling.toList.head? != some '/')

theorem legible_plain {spelling : String} (h : isPlain spelling) : Legible (code spelling) := by
  simp only [isPlain, Bool.or_eq_true, Bool.and_eq_true, decide_eq_true_eq, bne_iff_ne] at h
  rcases h with hword | ⟨hmark, hslash⟩
  · exact legible_word (wordlike_of_shape (isWord_iff.1 hword))
  · exact legible_mark hmark hslash

/-- What is written for a magnitude is a number or, where it is none, a word. -/
theorem legible_magnitude (x : Float) : Legible (code (Number.plain x.abs ++ "f64")) := by
  have htype : "f64" ∈ numberTypes := by decide
  unfold Number.plain
  split_ifs
  · exact legible_plain (by decide)
  · have hinf : Number.signed x.abs ['i', 'n', 'f'] = ['i', 'n', 'f'] := by
      rw [Number.signed, if_neg (by simp [Number.isNegative_abs])]
    rw [hinf]
    exact legible_plain (by decide)
  · rw [Number.signed, if_neg (by simp [Number.isNegative_abs])]
    refine legible_number ?_
    rw [String.toList_append, String.toList_ofList]
    rcases Number.positional_shape (Number.allDigits_magnitude .upper x.abs) with
      hwhole | ⟨whole, behind, heq, hwhole, hbehind⟩
    · exact .whole hwhole.digit hwhole.ne_nil htype
    · rw [heq]
      exact .point hwhole.digit hwhole.ne_nil hbehind.digit hbehind.ne_nil htype

theorem legible_natural (n : Nat) {type : String} (h : type ∈ numberTypes) :
    Legible (code (toString n ++ type)) := by
  have hdigits := Number.allDigits_toDigits n
  refine legible_number ?_
  rw [String.toList_append, Nat.toString_eq_ofList_toDigits, String.toList_ofList]
  exact .whole hdigits.digit hdigits.ne_nil h

/-! ## Lists -/

@[simp] theorem readable_nil : Readable [] :=
  List.forall_mem_nil _

@[simp] theorem readable_cons {t : Token} {ts : List Token} :
    Readable (t :: ts) ↔ Legible t ∧ Readable ts :=
  List.forall_mem_cons

@[simp] theorem readable_append {ts us : List Token} :
    Readable (ts ++ us) ↔ Readable ts ∧ Readable us :=
  List.forall_mem_append

theorem readable_flatMap {α : Type} {l : List α} {f : α → List Token} :
    Readable (l.flatMap f) ↔ ∀ a ∈ l, Readable (f a) :=
  List.forall_mem_flatMap

theorem legible_comma : Legible (code ",") :=
  legible_plain (by decide)

theorem readable_commaSeparated {items : List (List Token)} (h : ∀ item ∈ items, Readable item) :
    Readable (commaSeparated items) := by
  induction items with
  | nil => exact readable_nil
  | cons item items ih =>
    obtain ⟨hitem, hitems⟩ := List.forall_mem_cons.1 h
    cases items with
    | nil => exact hitem
    | cons next items =>
      rw [commaSeparated_cons_cons, readable_append, readable_cons]
      exact ⟨hitem, legible_comma, ih hitems⟩

theorem readable_commaTerminated {items : List (List Token)} (h : ∀ item ∈ items, Readable item) :
    Readable (commaTerminated items) :=
  readable_flatMap.2 fun item hitem => by simp [h item hitem, legible_comma]

@[simp] theorem readable_braced {content : List Token} :
    Readable (braced content) ↔ Readable content := by
  simp +decide [braced, legible_plain]

@[simp] theorem readable_metaItem {content : List Token} :
    Readable (metaItem content) ↔ Readable content := by
  simp +decide [metaItem, codes, legible_plain]

@[simp] theorem readable_docItem {doc : Token} : Readable (docItem doc) ↔ Legible doc := by
  simp +decide [docItem, codes, legible_plain]

theorem readable_texts (values : List String) :
    Readable (commaSeparated (values.map fun value => [text value])) :=
  readable_commaSeparated (List.forall_mem_map.2 fun value _ => by simp [legible_text])

theorem readable_double (x : Float) : Readable (double x) := by
  unfold double
  split <;> simp +decide [legible_plain, legible_magnitude]

theorem FacadeItems.legible_typeName : Legible typeName :=
  legible_plain (by decide)

theorem FacadeItems.readable_debugItem : Readable debugItem := by
  simp +decide [debugItem, codes, legible_plain, legible_text, legible_typeName, legible_lifetime]

/-! ## Metrics -/

section Items

variable {rt : String} (hrt : Identifier rt)

include hrt

theorem readable_crateItem {path : List String} (h : path.all isPlain) :
    Readable (crateItem rt path) := by
  have hpath : ∀ segment ∈ path, Legible (code segment) :=
    fun segment hs => legible_plain (List.all_eq_true.1 h segment hs)
  have hsep : Legible (code "::") := legible_plain (by decide)
  have hsegments : Readable (codes (path.flatMap fun segment => ["::", segment])) := by
    rw [codes, List.map_flatMap, readable_flatMap]
    intro segment hs
    simp [hsep, hpath segment hs]
  simp only [crateItem, readable_append, hsegments, and_true]
  simp [codes, hsep, legible_identifier hrt]

theorem readable_clientItem {path : List String} (h : path.all isPlain) :
    Readable (clientItem rt path) :=
  readable_crateItem hrt (by simpa +decide using h)

theorem readable_formula {function : String} (hfunction : isPlain function) (first second : Float)
    (count : Nat) : Readable (BucketCall.tokens.formula rt function first second count) := by
  have hname : Readable (clientItem rt [function]) :=
    readable_clientItem hrt (by simpa using hfunction)
  have hcount : Legible (code (toString count ++ "usize")) := legible_natural count (by decide)
  have hargs : Readable (commaSeparated
      [double first, double second, [code (toString count ++ "usize")]]) :=
    readable_commaSeparated (by simpa [readable_double] using hcount)
  simp +decide only [BucketCall.tokens.formula, codes, legible_plain, hname, hargs,
    readable_append, readable_cons, readable_nil, List.map, and_self]

theorem readable_buckets (call : BucketCall) : Readable (call.tokens rt) := by
  cases call with
  | exponential start factor count => exact readable_formula hrt (by decide) start factor count
  | linear start width count => exact readable_formula hrt (by decide) start width count
  | bounds values =>
    have hvalues : Readable (commaSeparated (values.map double)) :=
      readable_commaSeparated (List.forall_mem_map.2 fun x _ => readable_double x)
    simp +decide [BucketCall.tokens, codes, legible_plain, hvalues]

/-- Name and help are texts, so they may be anything. -/
theorem readable_options (c : Constructor) : Readable (c.options rt) := by
  have hargs : Readable (commaSeparated [[text c.name], [text c.help]]) :=
    readable_texts [c.name, c.help]
  have hname : Readable
      (clientItem rt [if c.forHistogram then "HistogramOpts" else "Opts", "new"]) := by
    refine readable_clientItem hrt ?_
    split <;> decide
  unfold Constructor.options
  cases c.buckets with
  | none => simp +decide [legible_plain, hname, hargs]
  | some buckets =>
    simp +decide [codes, legible_plain, hname, hargs, readable_buckets hrt buckets]

theorem readable_constructor {c : Constructor} (hfield : Identifier c.field)
    (hhandle : isPlain c.handle) : Readable (c.tokens rt) := by
  have htype : Readable (clientItem rt [c.handle]) :=
    readable_clientItem hrt (by simpa using hhandle)
  have harguments : Readable (c.arguments rt) := by
    unfold Constructor.arguments
    split <;> simp +decide [codes, legible_plain, readable_options hrt c, readable_texts]
  simp +decide [c.tokens_eq, legible_plain, legible_identifier hfield, htype, harguments]

theorem readable_accessor {a : Accessor}
    (h : Identifier a.name ∧ Identifier a.field ∧ ∀ p ∈ a.params, Identifier p)
    (hchild : isPlain a.child) : Readable (a.tokens rt) := by
  obtain ⟨hname, hfield, hparams⟩ := h
  have htype : Readable (clientItem rt [a.child]) :=
    readable_clientItem hrt (by simpa using hchild)
  have hattributes : Readable a.attributes := by
    unfold Accessor.attributes Accessor.allowance
    split_ifs <;> simp +decide [codes, legible_plain, legible_text]
  have hlist : Readable (commaSeparated ([code "&", code "self"] ::
      a.params.map fun p => [code p, code ":", code "&", code "str"])) := by
    refine readable_commaSeparated (List.forall_mem_cons.2 ⟨?_, List.forall_mem_map.2 fun p hp => ?_⟩)
    · simp +decide [legible_plain]
    · simp +decide [legible_plain, legible_identifier (hparams p hp)]
  have hvalues : Readable (commaSeparated (a.params.map fun p => [code p])) :=
    readable_commaSeparated
      (List.forall_mem_map.2 fun p hp => by simp [legible_identifier (hparams p hp)])
  have hsize : Legible (code a.params.length.repr) := by
    simpa using legible_natural a.params.length (show "" ∈ numberTypes by decide)
  have hbody : Readable a.bodyTokens := by
    unfold Accessor.bodyTokens Accessor.valuesArray
    split <;> simp +decide [codes, legible_plain, legible_identifier hfield, hvalues, hsize]
  simp +decide [a.tokens_eq, Accessor.method, codes, legible_plain, legible_identifier hname,
    hattributes, hlist, htype, hbody]

/-! ## Namespaces -/

namespace FacadeItems

variable {f : FacadeItems}

/-- What a type is called is a word. -/
structure Worded (f : FacadeItems) : Prop where
  handles : ∀ c ∈ f.constructors, isPlain c.handle
  children : ∀ a ∈ f.accessors, isPlain a.child

theorem readable_structItem (h : f.WellNamed) (hworded : f.Worded) :
    Readable (f.structItem rt) := by
  have hfields : Readable (commaTerminated (f.constructors.map fun c =>
      code c.field :: code ":" :: clientItem rt [c.handle])) := by
    refine readable_commaTerminated (List.forall_mem_map.2 fun c hc => ?_)
    have hfield := legible_identifier (h.constructors c hc)
    have htype : Readable (clientItem rt [c.handle]) :=
      readable_clientItem hrt (by simpa using hworded.handles c hc)
    simp +decide [legible_plain, hfield, htype]
  simp +decide [structItem, codes, legible_plain, legible_text, legible_typeName, hfields]

theorem readable_cacheItem : Readable (cacheItem rt) := by
  have hcache : Readable (crateItem rt ["FacadeCache"]) := readable_crateItem hrt (by decide)
  have hnew : Readable (crateItem rt ["FacadeCache", "new"]) := readable_crateItem hrt (by decide)
  simp +decide [cacheItem, codes, legible_plain, legible_typeName, hcache, hnew]

theorem readable_registerItem (h : f.WellNamed) (hworded : f.Worded) :
    Readable (f.registerItem rt) := by
  have hbuilt : Readable (f.constructors.flatMap (·.tokens rt)) :=
    readable_flatMap.2 fun c hc =>
      readable_constructor hrt (h.constructors c hc) (hworded.handles c hc)
  have hfield : ∀ field ∈ f.constructors.map (·.field), Legible (code field) :=
    List.forall_mem_map.2 fun c hc => legible_identifier (h.constructors c hc)
  have hcollectors : Readable
      (commaTerminated ((f.constructors.map (·.field)).map (collector rt))) := by
    refine readable_commaTerminated (List.forall_mem_map.2 fun field hin => ?_)
    have htype : Readable (clientItem rt ["core", "Collector"]) :=
      readable_clientItem hrt (by decide)
    simp +decide [collector, codes, legible_plain, hfield field hin, htype]
  have hfields : Readable
      (commaTerminated ((f.constructors.map (·.field)).map fun field => [code field])) :=
    readable_commaTerminated (List.forall_mem_map.2 fun field hin => by simp [hfield field hin])
  have hregistry : Readable (clientItem rt ["Registry"]) := readable_clientItem hrt (by decide)
  have hresult : Readable (clientItem rt ["Result"]) := readable_clientItem hrt (by decide)
  have hall : Readable (crateItem rt ["register_all"]) := readable_crateItem hrt (by decide)
  simp +decide [-List.map_map, registerItem, clientResult, codes, legible_plain, legible_typeName,
    hbuilt, hcollectors, hfields, hregistry, hresult, hall]

theorem readable_createItems : Readable (createItem rt ++ createWithRegistryItem rt) := by
  have hresult : Readable (clientItem rt ["Result"]) := readable_clientItem hrt (by decide)
  have hdefault : Readable (crateItem rt ["default_registry"]) :=
    readable_crateItem hrt (by decide)
  have hshared : Readable (crateItem rt ["SharedRegistry"]) := readable_crateItem hrt (by decide)
  have hdocs : ∀ doc ∈ [" Returns the facade bound to the process-wide default registry.", "",
      " Every call returns the same instance; the metrics are registered on first use.",
      " Returns the facade bound to `registry`, registering its metrics on first use."],
      Legible (rawText doc) := by
    have hplain : ∀ doc ∈ [" Returns the facade bound to the process-wide default registry.", "",
        " Every call returns the same instance; the metrics are registered on first use.",
        " Returns the facade bound to `registry`, registering its metrics on first use."],
        '"' ∉ doc.toList ∧ '\r' ∉ doc.toList ∧ '\n' ∉ doc.toList := by decide +kernel
    intro doc hdoc
    obtain ⟨hquote, hreturn, hline⟩ := hplain doc hdoc
    exact legible_rawText hquote hreturn hline
  simp +decide [createItem, createWithRegistryItem, sharedResult, codes, legible_plain, hdocs,
    hresult, hdefault, hshared]

/-- **The items of a namespace can be read back.** -/
theorem readable_tokens (h : f.WellNamed) (hworded : f.Worded) : Readable (f.tokens rt) := by
  have hcreate := readable_createItems hrt
  have haccessors : Readable (f.accessors.flatMap (·.tokens rt)) :=
    readable_flatMap.2 fun a ha =>
      readable_accessor hrt (h.accessors a ha) (hworded.children a ha)
  rw [readable_append] at hcreate
  simp +decide [tokens, legible_plain, readable_structItem hrt h hworded, readable_debugItem,
    readable_cacheItem hrt, readable_registerItem hrt h hworded, legible_typeName, hcreate,
    haccessors]

end FacadeItems

end Items

theorem worded_ofFacade (f : Facade) : (FacadeItems.ofFacade f).Worded := by
  have hkind : ∀ k : Kind, isPlain k.name ∧ isPlain (k.name ++ "Vec") := by
    intro k
    cases k <;> decide
  obtain ⟨hhandles, hchildren⟩ := types_ofFacade (p := (isPlain ·)) hkind f
  exact ⟨hhandles, hchildren⟩

/-! ## Modules -/

theorem modulesTokens_eq (rt : String) (modules : List Module) :
    modulesTokens rt modules = modules.flatMap (·.tokens rt) := by
  induction modules with
  | nil => rw [modulesTokens, List.flatMap_nil]
  | cons m rest ih => rw [modulesTokens, List.flatMap_cons, ih]

/-- **A well-named module can be read back**, with all that is in it. -/
theorem readable_module {rt : String} (hrt : Identifier rt) {m : Module} (h : m.WellNamed) :
    Readable (m.tokens rt) := by
  induction h with
  | @mk segment facade children hname hitems _ _ ih =>
    have hchildren : Readable (modulesTokens rt children) := by
      rw [modulesTokens_eq]
      exact readable_flatMap.2 ih
    have hfacade : Readable ((facade.map fun f => (FacadeItems.ofFacade f).tokens rt).getD []) := by
      cases facade with
      | none => exact readable_nil
      | some f => exact FacadeItems.readable_tokens hrt (hitems f rfl) (worded_ofFacade f)
    simp +decide [Module.tokens, codes, legible_plain, legible_identifier hname, hfacade, hchildren]

end MetricFacade.Rust
