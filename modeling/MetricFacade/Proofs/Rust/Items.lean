import MetricFacade.Proofs.Rust.Outline
import MetricFacade.Proofs.Rust.Statics

/-!
# The pieces of a namespace are items

Whatever a user has named, groups in generated code close where they were opened: names are
identifiers and numbers end in their type, so neither is a bracket. Hence what is written one after
the other is split where it was put together.

Results:

* `item_constructor`, `item_accessor`: what is generated for a metric.
* `FacadeItems.tokens_eq_items`, `FacadeItems.item_items`: a namespace is made of items.
-/
namespace MetricFacade.Rust

open Ident Token MetricFacade.Metric

/-! ## Groups in the pieces of a namespace -/

/-- No name and no number is a bracket or a semicolon. -/
theorem foreign_structural : ∀ mark ∈ structural, isMark mark ∧ Foreign mark := by
  have hmarks : ∀ mark ∈ structural, isMark mark ∧
      mark.toList.getLast? ≠ some '4' ∧ mark.toList.getLast? ≠ some 'e' := by decide
  intro mark hmem
  obtain ⟨hmark, hlast⟩ := hmarks mark hmem
  exact ⟨hmark, foreign_of_isMark hmark hlast⟩

theorem digits_notMem_structural (n : Nat) : toString n ∉ structural := by
  intro hmem
  obtain ⟨c, hc, hforeign⟩ := List.any_eq_true.1 (foreign_structural _ hmem).1
  rw [digits_chars n c hc] at hforeign
  cases hforeign

theorem identifier_notMem_structural {w : String} (h : Identifier w) : w ∉ structural :=
  fun hmem => (foreign_structural w hmem).2.name w h rfl

theorem through_identifier {w : String} (h : Identifier w) (depth : Nat) (tokens : List Token) :
    through depth (code w :: tokens) = through depth tokens :=
  through_other depth tokens (identifier_notMem_structural h)

theorem level_double (x : Float) : Level (double x) := by
  intro depth
  have hmagnitude : Number.plain x.abs ++ "f64" ∉ structural :=
    fun hmem => (foreign_structural _ hmem).2.double _ rfl
  unfold double
  split <;> simp +decide [through_other, hmagnitude]

section Pieces

variable {rt : String} (hrt : Identifier rt)

include hrt

theorem level_crateItem {path : List String} (h : ∀ segment ∈ path, segment ∉ structural) :
    Level (crateItem rt path) := by
  intro depth
  have hpath : through depth (codes (path.flatMap fun segment => ["::", segment])) =
      some depth := by
    induction path with
    | nil => rfl
    | cons segment path ih =>
      obtain ⟨hsegment, hpath⟩ := List.forall_mem_cons.1 h
      have hrest := ih hpath
      simp only [codes] at hrest
      simp +decide [codes, through_other, hsegment, hrest]
  have hcrate : through depth (codes ["::", rt]) = some depth := by
    simp +decide [codes, through_other, through_identifier hrt]
  rw [crateItem, through_append, hcrate, Option.bind_some, hpath]

theorem level_clientItem {path : List String} (h : ∀ segment ∈ path, segment ∉ structural) :
    Level (clientItem rt path) :=
  level_crateItem hrt (List.forall_mem_cons.2 ⟨by decide, h⟩)

theorem level_clientResult {inner : List Token} (h : Level inner) :
    Level (clientResult rt inner) := by
  intro depth
  have hresult : Level (clientItem rt ["Result"]) := level_clientItem hrt (by decide)
  simp +decide [clientResult, through_other, hresult depth, h depth]

theorem level_formula {function : String} (h : function ∉ structural) (first second : Float)
    (count : Nat) : Level (BucketCall.tokens.formula rt function first second count) := by
  intro depth
  have hfunction : Level (clientItem rt [function]) := level_clientItem hrt (by simpa using h)
  have hcount : toString count ++ "usize" ∉ structural :=
    fun hmem => (foreign_structural _ hmem).2.count _ rfl
  have harguments : Level (commaSeparated
      [double first, double second, [code (toString count ++ "usize")]]) := by
    refine level_commaSeparated ?_
    rw [List.forall_mem_cons, List.forall_mem_cons, List.forall_mem_singleton]
    exact ⟨level_double first, level_double second, fun _ => through_other _ _ hcount⟩
  simp +decide only [BucketCall.tokens.formula, codes, List.map, through_append, through_open,
    through_close, through_other, through_nil, hfunction depth, harguments (depth + 1),
    Option.bind_some]

theorem level_buckets (call : BucketCall) : Level (call.tokens rt) := by
  cases call with
  | exponential start factor count => exact level_formula hrt (by decide) start factor count
  | linear start width count => exact level_formula hrt (by decide) start width count
  | bounds values =>
    intro depth
    have hvalues : Level (commaSeparated (values.map double)) :=
      level_commaSeparated (List.forall_mem_map.2 fun x _ => level_double x)
    simp +decide [BucketCall.tokens, codes, through_other, hvalues (depth + 1)]

omit hrt in
theorem level_texts (values : List String) :
    Level (commaSeparated (values.map fun value => [text value])) :=
  level_commaSeparated (List.forall_mem_map.2 fun value _ depth => through_text depth [] value)

theorem level_options (c : Constructor) : Level (c.options rt) := by
  intro depth
  have hname : Level (clientItem rt [if c.forHistogram then "HistogramOpts" else "Opts", "new"]) := by
    refine level_clientItem hrt ?_
    split <;> decide
  have harguments : Level (commaSeparated [[text c.name], [text c.help]]) :=
    level_texts [c.name, c.help]
  unfold Constructor.options
  cases c.buckets with
  | none => simp +decide [hname depth, harguments (depth + 1)]
  | some call =>
    simp +decide [codes, through_other, hname depth, harguments (depth + 1),
      level_buckets hrt call (depth + 1)]

theorem item_constructor {c : Constructor} (hfield : Identifier c.field)
    (hhandle : Identifier c.handle) : Item (c.tokens rt) := by
  have htype {function : String} (h : function ∉ structural) :
      Level (clientItem rt [c.handle, function]) :=
    level_clientItem hrt (by simp [identifier_notMem_structural hhandle, h])
  have hwithOpts : Level (clientItem rt [c.handle, "with_opts"]) := htype (by decide)
  have hnew : Level (clientItem rt [c.handle, "new"]) := htype (by decide)
  have hcall : Level (codes ["let", c.field, "="] ++ (if c.labels.isEmpty then
      clientItem rt [c.handle, "with_opts"] ++ code "(" :: c.options rt ++ [code ")"]
    else
      clientItem rt [c.handle, "new"] ++ code "(" :: c.options rt ++ codes [",", "&", "["]
        ++ commaSeparated (c.labels.map fun label => [text label]) ++ codes ["]", ")"])
      ++ [code "?"]) := by
    intro depth
    split
    · simp +decide [codes, through_other, through_identifier hfield, hwithOpts depth,
        level_options hrt c (depth + 1)]
    · simp +decide [codes, through_other, through_identifier hfield, hnew depth,
        level_options hrt c (depth + 1), level_texts c.labels (depth + 2)]
  have hitem := Item.statement hcall
  rwa [List.append_assoc] at hitem

theorem item_accessor {a : Accessor}
    (h : Identifier a.name ∧ Identifier a.field ∧ ∀ p ∈ a.params, Identifier p)
    (hchild : Identifier a.child) : Item (a.tokens rt) := by
  obtain ⟨hname, hfield, hparams⟩ := h
  have htype : Level (clientItem rt [a.child]) :=
    level_clientItem hrt (by simpa using identifier_notMem_structural hchild)
  have hlist : Level (commaSeparated ([code "&", code "self"] ::
      a.params.map fun p => [code p, code ":", code "&", code "str"])) := by
    refine level_commaSeparated ?_
    rw [List.forall_mem_cons, List.forall_mem_map]
    constructor
    · intro depth
      simp +decide [through_other]
    · intro p hp depth
      simp +decide [through_other, through_identifier (hparams p hp)]
  have hvalues : Level (commaSeparated (a.params.map fun p => [code p])) :=
    level_commaSeparated (List.forall_mem_map.2 fun p hp depth =>
      through_identifier (hparams p hp) depth [])
  have hsize := digits_notMem_structural a.params.length
  have hallowance : Level a.allowance := by
    intro depth
    unfold Accessor.allowance
    split <;> simp +decide [metaItem, codes, through_other]
  unfold Accessor.tokens
  split
  · refine .block ?_ ?_
    · intro depth
      simp +decide [docItem, metaItem, codes, through_other, through_identifier hname, htype depth]
    · intro depth
      simp +decide [codes, through_other, through_identifier hfield]
  · refine .block ?_ ?_
    · intro depth
      simp +decide only [docItem, metaItem, codes, List.map, through_append, through_open,
        through_close, through_other, through_text, through_nil, through_identifier hname,
        hallowance depth, hlist (depth + 1), htype depth, Option.bind_some]
    · intro depth
      simp +decide only [Accessor.valuesArray, codes, List.map, through_append, through_open,
        through_close, through_other, through_semicolon, through_nil, through_identifier hfield,
        hsize, hvalues (depth + 2), Option.bind_some]

/-! ## Items of a namespace -/

namespace FacadeItems

variable {f : FacadeItems}

/-- What a type is called is an identifier. -/
structure TypesNamed (f : FacadeItems) : Prop where
  handles : ∀ c ∈ f.constructors, Identifier c.handle
  children : ∀ a ∈ f.accessors, Identifier a.child

omit hrt in
theorem typeName_notMem_structural : Ident.written Facade.typeName ∉ structural := by decide

omit hrt in
theorem through_typeName (depth : Nat) (tokens : List Token) :
    through depth (typeName :: tokens) = through depth tokens :=
  through_other depth tokens typeName_notMem_structural

theorem item_structItem (h : f.WellNamed) (htypes : f.TypesNamed) : Item (f.structItem rt) := by
  have hfields : Level (commaTerminated (f.constructors.map fun c =>
      code c.field :: code ":" :: clientItem rt [c.handle])) := by
    refine level_commaTerminated (List.forall_mem_map.2 fun c hc depth => ?_)
    have htype : Level (clientItem rt [c.handle]) :=
      level_clientItem hrt (by simpa using identifier_notMem_structural (htypes.handles c hc))
    simp +decide [through_other, through_identifier (h.constructors c hc), htype depth]
  have hhead : Level (docItem (text ("Metrics declared in `" ++ f.scope ++ "`"))
      ++ codes ["pub", "struct"] ++ [typeName]) := by
    intro depth
    simp +decide [docItem, metaItem, codes, through_other, through_typeName]
  have hitem := Item.block hhead fun depth => hfields (depth + 1)
  rwa [List.append_assoc] at hitem

omit hrt in
theorem item_debugItem : Item debugItem := by
  have hhead : Level (codes ["impl", "::", "core", "::", "fmt", "::", "Debug", "for"]
      ++ [typeName]) := by
    intro depth
    simp +decide [codes, through_other, through_typeName]
  have hbody (depth : Nat) : through (depth + 1) (codes ["fn", "fmt", "(", "&", "self", ",", "f",
      ":", "&", "mut", "::", "core", "::", "fmt", "::", "Formatter", "<", "'_", ">", ")", "->",
      "::", "core", "::", "fmt", "::", "Result"] ++ braced (codes ["f", ".", "debug_struct", "("]
        ++ text Facade.typeName :: codes [")", ".", "finish_non_exhaustive", "(", ")"])) =
          some (depth + 1) := by
    simp +decide [braced, codes, through_other]
  have hitem := Item.block hhead hbody
  rwa [List.append_assoc] at hitem

theorem item_cacheItem : Item (cacheItem rt) := by
  have hcache : Level (crateItem rt ["FacadeCache"]) := level_crateItem hrt (by decide)
  have hnew : Level (crateItem rt ["FacadeCache", "new"]) := level_crateItem hrt (by decide)
  have hstatement : Level (codes ["static", "FACADES", ":"] ++ crateItem rt ["FacadeCache"]
      ++ code "<" :: typeName :: codes [">", "="] ++ crateItem rt ["FacadeCache", "new"]
      ++ codes ["(", ")"]) := by
    intro depth
    simp +decide [codes, through_other, through_typeName, hcache depth, hnew depth]
  have hitem := Item.statement hstatement
  rwa [List.append_assoc] at hitem

/-- The statement that registers what was built. -/
def registration (rt : String) (f : FacadeItems) : List Token :=
  crateItem rt ["register_all"] ++ codes ["(", "registry", ",", "vec", "!", "["]
    ++ commaTerminated ((f.constructors.map (·.field)).map (collector rt))
    ++ codes ["]", ",", ")", "?", ";"]

/-- What the function that registers comes to. -/
def registered (f : FacadeItems) : List Token :=
  codes ["Ok", "("] ++ typeName
    :: braced (commaTerminated ((f.constructors.map (·.field)).map fun field => [code field]))
    ++ [code ")"]

theorem item_registration (h : f.WellNamed) : Item (f.registration rt) := by
  have hall : Level (crateItem rt ["register_all"]) := level_crateItem hrt (by decide)
  have hcollectors : Level (commaTerminated ((f.constructors.map (·.field)).map (collector rt))) := by
    refine level_commaTerminated ?_
    rw [List.map_map, List.forall_mem_map]
    intro c hc depth
    have htype : Level (clientItem rt ["core", "Collector"]) := level_clientItem hrt (by decide)
    simp +decide [collector, codes, through_other, through_identifier (h.constructors c hc),
      htype depth]
  have hstatement : Level (crateItem rt ["register_all"]
      ++ codes ["(", "registry", ",", "vec", "!", "["]
      ++ commaTerminated ((f.constructors.map (·.field)).map (collector rt))
      ++ codes ["]", ",", ")", "?"]) := by
    intro depth
    simp +decide only [codes, List.map, through_append, through_open, through_close,
      through_other, through_nil, hall depth, hcollectors (depth + 2), Option.bind_some]
  have hitem := Item.statement hstatement
  rwa [List.append_assoc] at hitem

omit hrt in
theorem level_registered (h : f.WellNamed) : Level f.registered := by
  have hfields : Level
      (commaTerminated ((f.constructors.map (·.field)).map fun field => [code field])) := by
    refine level_commaTerminated ?_
    rw [List.map_map, List.forall_mem_map]
    exact fun c hc depth => through_identifier (h.constructors c hc) depth []
  intro depth
  simp +decide only [registered, braced, codes, List.map, List.cons_append, List.append_assoc,
    through_append, through_open, through_close, through_brace, through_other, through_typeName,
    through_nil, hfields (depth + 2), Option.bind_some]

/-- What stands between the name of the function that registers and its body. -/
def registerSignature (rt : String) : List Token :=
  codes ["(", "registry", ":", "&"] ++ clientItem rt ["Registry"] ++ codes [")", "->"]
    ++ clientResult rt [typeName]

def registerBody (rt : String) (f : FacadeItems) : List Token :=
  (f.constructors.map (·.tokens rt) ++ [f.registration rt]).flatten ++ f.registered

omit hrt in
theorem registerItem_eq (f : FacadeItems) :
    f.registerItem rt = codes ["fn", "register_metrics"]
      ++ (registerSignature rt ++ braced (f.registerBody rt)) := by
  simp [registerItem, registerSignature, registerBody, registration, registered, codes,
    List.flatMap_def]

theorem items_registerBody (h : f.WellNamed) (htypes : f.TypesNamed) :
    ∀ item ∈ f.constructors.map (·.tokens rt) ++ [f.registration rt], Item item := by
  rw [List.forall_mem_append, List.forall_mem_map, List.forall_mem_singleton]
  exact ⟨fun c hc => item_constructor hrt (h.constructors c hc) (htypes.handles c hc),
    item_registration hrt h⟩

theorem item_registerItem (h : f.WellNamed) (htypes : f.TypesNamed) :
    Item (f.registerItem rt) := by
  have hregistry : Level (clientItem rt ["Registry"]) := level_clientItem hrt (by decide)
  have hresult : Level (clientResult rt [typeName]) :=
    level_clientResult hrt fun depth => through_typeName depth []
  have hhead : Level (codes ["fn", "register_metrics"] ++ registerSignature rt) := by
    intro depth
    simp +decide only [registerSignature, codes, List.map, through_append, through_open, through_close,
      through_other, through_nil, hregistry (depth + 1), hresult depth, Option.bind_some]
  rw [registerItem_eq, ← List.append_assoc]
  refine .block hhead fun depth => ?_
  rw [registerBody, through_append, through_flatten (items_registerBody hrt h htypes),
    Option.bind_some, level_registered h]

theorem item_createItem : Item (createItem rt) := by
  have hresult : Level (clientItem rt ["Result"]) := level_clientItem hrt (by decide)
  have hdefault : Level (crateItem rt ["default_registry"]) := level_crateItem hrt (by decide)
  refine .block ?_ ?_
  · intro depth
    simp +decide [docItem, metaItem, sharedResult, codes, through_other, hresult depth]
  · intro depth
    simp +decide [codes, through_other, hdefault (depth + 2)]

theorem item_createWithRegistryItem : Item (createWithRegistryItem rt) := by
  have hresult : Level (clientItem rt ["Result"]) := level_clientItem hrt (by decide)
  have hregistry : Level (crateItem rt ["SharedRegistry"]) := level_crateItem hrt (by decide)
  refine .block ?_ ?_
  · intro depth
    simp +decide [docItem, metaItem, sharedResult, codes, through_other, hresult depth,
      hregistry (depth + 1)]
  · intro depth
    simp +decide [codes, through_other]

def implBody (rt : String) (f : FacadeItems) : List Token :=
  (createItem rt :: createWithRegistryItem rt :: f.accessors.map (·.tokens rt)).flatten

omit hrt in
theorem implItem_eq (f : FacadeItems) :
    f.implItem rt = codes ["impl", Ident.written Facade.typeName] ++ braced (f.implBody rt) := by
  simp [implItem, implBody, typeName, codes, List.flatMap_def]

theorem items_implBody (h : f.WellNamed) (htypes : f.TypesNamed) :
    ∀ item ∈ createItem rt :: createWithRegistryItem rt :: f.accessors.map (·.tokens rt),
      Item item := by
  rw [List.forall_mem_cons, List.forall_mem_cons, List.forall_mem_map]
  exact ⟨item_createItem hrt, item_createWithRegistryItem hrt,
    fun a ha => item_accessor hrt (h.accessors a ha) (htypes.children a ha)⟩

theorem item_implItem (h : f.WellNamed) (htypes : f.TypesNamed) : Item (f.implItem rt) := by
  have hhead : Level (codes ["impl", Ident.written Facade.typeName]) := by
    intro depth
    simp +decide [codes, through_other]
  rw [implItem_eq]
  exact .block hhead (through_flatten (items_implBody hrt h htypes))

/-- All items of a namespace, in order. -/
def items (rt : String) (f : FacadeItems) : List (List Token) :=
  [f.structItem rt, debugItem, cacheItem rt, f.registerItem rt, f.implItem rt]

omit hrt in
theorem tokens_eq_items (f : FacadeItems) : f.tokens rt = (f.items rt).flatten := by
  simp [tokens, items, implItem]

theorem item_items (h : f.WellNamed) (htypes : f.TypesNamed) :
    ∀ item ∈ f.items rt, Item item := by
  simp only [items, List.forall_mem_cons]
  exact ⟨item_structItem hrt h htypes, item_debugItem, item_cacheItem hrt,
    item_registerItem hrt h htypes, item_implItem hrt h htypes, List.forall_mem_nil _⟩

end FacadeItems

end Pieces

theorem identifier_kind (k : Kind) : Identifier k.name ∧ Identifier (k.name ++ "Vec") := by
  have hword {name : String} (h : Check.isWord name ∧ name ≠ "_" ∧ name ∉ pathKeywords)
      (hwritten : written name = name) : Identifier name := by
    have hescaped : escaped name = name := if_neg h.2.2
    have hbare : Bare (escaped name) := by
      rw [hescaped]
      exact ⟨Check.isWord_iff.1 h.1, h.2⟩
    have hidentifier := written_identifier hbare
    rwa [hwritten] at hidentifier
  cases k with
  | counter | gauge | histogram =>
    exact ⟨hword (by decide) (by decide), hword (by decide) (by decide)⟩

theorem typesNamed_ofFacade (f : Facade) : (FacadeItems.ofFacade f).TypesNamed := by
  obtain ⟨hhandles, hchildren⟩ := types_ofFacade identifier_kind f
  exact ⟨hhandles, hchildren⟩

end MetricFacade.Rust
