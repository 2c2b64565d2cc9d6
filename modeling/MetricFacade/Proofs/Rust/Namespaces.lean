import MetricFacade.Proofs.Rust.Constructors
import MetricFacade.Proofs.Rust.Forest
import MetricFacade.Proofs.Rust.Items

/-!
# Namespaces read back

The items of a namespace are found in source text by the modules that lead to them. Its type is
known by name: the fields, the function that registers it, and its methods are told by it.

Results:

* `FacadeItems.readNamespace_items`: the items of a namespace are read as they were meant.
* `itemsAt_placed`: they stand where their modules lead.
-/
namespace MetricFacade.Rust

open Ident Token

/-! ## Readers -/

/-- `name : Type`, the type one of the client library. -/
def readField (tokens : List Token) : Option (String × String) := do
  let (name, tokens) ← word tokens
  let (type, tokens) ← clientName (← strip [":"] tokens)
  if tokens = [] then return (name, type) else none

/-- The fields of a type, with a comma behind each. -/
def readFields (type : String) (item : List Token) : Option (List (String × String)) := do
  let tokens ← strip ["pub", "struct", type, "\x7b"] (item.dropWhile (· ≠ code "pub"))
  let (items, _) ← splitList "\x7d" tokens
  items.dropLast.mapM readField

/-- What the items of a namespace say about its type. -/
structure Outline where
  fields : List (String × String)
  /-- What is built to be registered, in order. -/
  constructors : List Constructor
  /-- What hands metrics out, in order. -/
  methods : List Method
  deriving Repr, DecidableEq

def readNamespace (type : String) (items : List (List Token)) : Option Outline := do
  let fields ← items.findSome? (readFields type)
  let statements ← items.findSome? (block? ["fn", "register_metrics"])
  let methods ← items.findSome? (block? ["impl", type])
  return ⟨fields, (entries 0 statements).filterMap readConstructor,
    (entries 0 methods).filterMap readMethod⟩

/-- The items of the module that a path leads to. -/
def itemsAt : List String → List Token → Option (List (List Token))
  | [], tokens => some (entries 0 tokens)
  | segment :: path, tokens =>
    ((entries 0 tokens).findSome? (block? ["pub", "mod", segment])).bind (itemsAt path)

/-! ## Reading a namespace -/

theorem commaTerminated_eq (items : List (List Token)) :
    commaTerminated items = commaSeparated (items ++ [[]]) := by
  induction items with
  | nil => rfl
  | cons item items ih =>
    obtain ⟨next, rest, hrest⟩ : ∃ next rest, items ++ [[]] = next :: rest :=
      List.exists_cons_of_ne_nil (by simp)
    rw [commaTerminated, List.flatMap_cons, ← commaTerminated, ih, List.cons_append, hrest,
      commaSeparated_cons_cons]
    simp

/-- What is read item by item is what was meant, and what is no such item is left out. -/
theorem filterMap_map_append {α β γ : Type} {write : α → β} {read : β → Option γ} {meant : α → γ}
    {as : List α} (h : ∀ a ∈ as, read (write a) = some (meant a)) {others : List β}
    (hothers : ∀ b ∈ others, read b = none) :
    (as.map write ++ others).filterMap read = as.map meant := by
  rw [List.filterMap_append, List.filterMap_map, List.filterMap_eq_nil_iff.2 hothers,
    List.append_nil]
  exact List.filterMap_eq_map_iff_forall_eq_some.2 h

namespace FacadeItems

theorem typeName_eq : typeName = code Facade.typeName := by decide

variable {f : FacadeItems} {rt : String} (hrt : Identifier rt)

include hrt

/-- A field as it is declared, by its name and its type. -/
def fieldItem (rt : String) (field : String × String) : List Token :=
  codes [field.1, ":"] ++ clientItem rt [field.2]

/-- The outline that the items of a namespace are meant to have. -/
def outline (f : FacadeItems) : Outline where
  fields := f.constructors.map fun c => (c.field, c.handle)
  constructors := f.constructors
  methods := f.accessors.map (·.toMethod)

omit hrt in
theorem structItem_behind_doc (f : FacadeItems) :
    (f.structItem rt).dropWhile (· ≠ code "pub") =
      codes ["pub", "struct", Facade.typeName, "\x7b"]
        ++ (commaTerminated (f.outline.fields.map (fieldItem rt)) ++ [code "\x7d"]) := by
  have hdoc (doc : String) : code "pub" ∉ docItem (text doc) := by simp [docItem, metaItem]
  rw [structItem, List.append_assoc]
  refine (dropWhile_ne_append (hdoc _) _).trans ?_
  simp [typeName_eq, braced, codes, outline, fieldItem, Function.comp_def]

theorem inner_fieldItem {close : String} (hclose : Foreign close) (hsep : close ≠ "::")
    (hcolon : close ≠ ":") (hcrate : close ≠ "prometheus") {field : String × String}
    (hname : Identifier field.1) (htype : Identifier field.2) :
    ∀ t ∈ fieldItem rt field, Inner close t := by
  have habsent {mark : String} (hmark : Foreign mark) (hsep : mark ≠ "::") (hcolon : mark ≠ ":")
      (hcrate : mark ≠ "prometheus") : code mark ∉ fieldItem rt field := by
    have htype : code mark ∉ clientItem rt [field.2] :=
      notMem_crateItem hmark hrt hsep (by simp [hcrate, hmark.name _ htype])
    simp [fieldItem, hmark.name _ hname, hcolon, htype]
  exact inner_of_notMem (habsent foreign_comma (by decide) (by decide) (by decide))
    (habsent hclose hsep hcolon hcrate)

theorem readFields_structItem (h : f.WellNamed) (htypes : f.TypesNamed) :
    readFields Facade.typeName (f.structItem rt) = some f.outline.fields := by
  have hitems : ∀ item ∈ f.outline.fields.map (fieldItem rt) ++ [[]],
      ∀ t ∈ item, Inner "\x7d" t := by
    rw [List.forall_mem_append, List.forall_mem_singleton, outline, List.map_map,
      List.forall_mem_map]
    refine ⟨fun c hc => ?_, List.forall_mem_nil _⟩
    exact inner_fieldItem hrt (foreign_of_isMark (by decide) (by decide)) (by decide) (by decide)
      (by decide) (h.constructors c hc) (htypes.handles c hc)
  have hlist := splitList_commaSeparated (show "\x7d" ≠ "," by decide) (by simp) hitems []
  have hread (field : String × String) : readField (fieldItem rt field) = some field := by
    have htype := clientName_clientItem rt field.2 []
    rw [List.append_nil] at htype
    simp [readField, fieldItem, codes, word, strip, htype]
  rw [readFields, structItem_behind_doc, strip_codes, commaTerminated_eq]
  simp only [hlist, Option.bind_eq_bind, Option.bind_some, List.dropLast_concat, mapM_map hread]

omit hrt in
/-- What takes no instance of the facade is no method. -/
theorem readMethod_of_receiver {tokens : List Token} {name : String} {receiver rest behind : List Token}
    (hreceiver : receiver ≠ codes ["&", "self"])
    (hskipped : tokens.dropWhile (· ≠ code "pub") =
      codes ["pub", "fn"] ++ code name :: (codes ["("] ++ rest))
    (hlist : splitList ")" rest = some ([receiver], behind)) :
    readMethod tokens = none := by
  have hparams : readParams rest = none := by simp [readParams, hlist, hreceiver]
  rw [readMethod, hskipped, strip_codes]
  simp [word, hparams]

omit hrt in
theorem readMethod_createItem : readMethod (createItem rt) = none := by
  have hskipped : ∃ behind, (createItem rt).dropWhile (· ≠ code "pub") =
      codes ["pub", "fn"] ++ code "create" :: (codes ["("] ++ code ")" :: behind) := by
    simp [createItem, docItem, metaItem, codes]
  obtain ⟨behind, hskipped⟩ := hskipped
  have hlist : splitList ")" (code ")" :: behind) = some ([[]], behind) := by simp [splitList]
  exact readMethod_of_receiver (by decide) hskipped hlist

/-- The only parameter of the constructor that takes a registry. -/
def registryParam (rt : String) : List Token :=
  codes ["registry", ":", "&"] ++ crateItem rt ["SharedRegistry"]

theorem readMethod_createWithRegistryItem : readMethod (createWithRegistryItem rt) = none := by
  have hskipped : ∃ behind, (createWithRegistryItem rt).dropWhile (· ≠ code "pub") =
      codes ["pub", "fn"] ++ code "create_with_registry" ::
        (codes ["("] ++ (commaSeparated [registryParam rt] ++ code ")" :: behind)) := by
    simp [createWithRegistryItem, docItem, metaItem, codes, commaSeparated, registryParam]
  obtain ⟨behind, hskipped⟩ := hskipped
  have habsent {mark : String} (hmark : Foreign mark)
      (hwords : mark ∉ ["registry", ":", "&", "::", "SharedRegistry"]) :
      code mark ∉ registryParam rt := by
    simp only [List.mem_cons, not_or] at hwords
    have hregistry : code mark ∉ crateItem rt ["SharedRegistry"] :=
      notMem_crateItem hmark hrt (by simp [hwords]) (by simp [hwords])
    simp [registryParam, hwords, hregistry]
  have hinner : ∀ item ∈ [registryParam rt], ∀ t ∈ item, Inner ")" t :=
    List.forall_mem_singleton.2 (inner_of_notMem (habsent foreign_comma (by decide))
      (habsent (foreign_of_isMark (by decide) (by decide)) (by decide)))
  exact readMethod_of_receiver (by simp [registryParam, codes]) hskipped
    (splitList_commaSeparated (by decide) (List.cons_ne_nil _ _) hinner behind)

theorem entries_registerBody (h : f.WellNamed) (htypes : f.TypesNamed) :
    entries 0 (f.registerBody rt) =
      f.constructors.map (·.tokens rt) ++ [f.registration rt, f.registered] := by
  have hlast : entries 0 f.registered = [f.registered] :=
    entries_last (by simp [registered, codes]) (level_registered h 0)
  rw [registerBody, entries_flatten (items_registerBody hrt h htypes), hlast, List.append_assoc]
  rfl

theorem entries_implBody (h : f.WellNamed) (htypes : f.TypesNamed) :
    entries 0 (f.implBody rt) =
      createItem rt :: createWithRegistryItem rt :: f.accessors.map (·.tokens rt) := by
  have hitems := entries_flatten (items_implBody hrt h htypes) []
  rwa [List.append_nil, entries, List.append_nil] at hitems

theorem block?_registerItem (f : FacadeItems) :
    block? ["fn", "register_metrics"] (f.registerItem rt) = some (f.registerBody rt) := by
  have hsignature : code "\x7b" ∉ registerSignature rt := by
    have hopen : Foreign "\x7b" := foreign_of_isMark (by decide) (by decide)
    have hregistry : code "\x7b" ∉ clientItem rt ["Registry"] :=
      notMem_crateItem hopen hrt (by decide) (by decide)
    have hresult : code "\x7b" ∉ clientItem rt ["Result"] :=
      notMem_crateItem hopen hrt (by decide) (by decide)
    simp [registerSignature, clientResult, typeName_eq, Facade.typeName, hregistry, hresult]
  rw [registerItem_eq]
  exact block?_braced _ hsignature _

omit hrt in
theorem block?_implItem (f : FacadeItems) :
    block? ["impl", Facade.typeName] (f.implItem rt) = some (f.implBody rt) := by
  have hwritten : written Facade.typeName = Facade.typeName := by decide
  rw [implItem_eq, hwritten]
  exact block?_braced _ List.not_mem_nil _

omit hrt in
/-- The words before the braces tell the items apart, and none of them is a module. -/
theorem block?_items (rt : String) (f : FacadeItems) :
    (∀ segment, ∀ item ∈ f.items rt, block? ["pub", "mod", segment] item = none) ∧
      (∀ item ∈ [f.structItem rt, debugItem, cacheItem rt],
        block? ["fn", "register_metrics"] item = none) ∧
      ∀ item ∈ [f.structItem rt, debugItem, cacheItem rt, f.registerItem rt],
        block? ["impl", Facade.typeName] item = none := by
  have hstruct {first : String} (known : List String) (h : code "#" ≠ code first) :
      block? (first :: known) (f.structItem rt) = none := block?_of_ne h
  have hcache {first : String} (known : List String) (h : code "static" ≠ code first) :
      block? (first :: known) (cacheItem rt) = none := block?_of_ne h
  have hregister {first : String} (known : List String) (h : code "fn" ≠ code first) :
      block? (first :: known) (f.registerItem rt) = none := block?_of_ne h
  have hdebug : block? ["impl", Facade.typeName] debugItem = none := block?_of_strip (by decide)
  simp only [items, List.forall_mem_cons]
  refine ⟨fun segment => ?_, ?_, ?_⟩
  · exact ⟨hstruct _ (by decide), block?_of_ne (by decide), hcache _ (by decide),
      hregister _ (by decide), block?_of_ne (by decide), List.forall_mem_nil _⟩
  · exact ⟨hstruct _ (by decide), block?_of_ne (by decide), hcache _ (by decide),
      List.forall_mem_nil _⟩
  · exact ⟨hstruct _ (by decide), hdebug, hcache _ (by decide), hregister _ (by decide),
      List.forall_mem_nil _⟩

/-- **The items of a namespace are read as they were meant**, whatever follows them. -/
theorem readNamespace_items (h : f.WellNamed) (htypes : f.TypesNamed)
    (hbounds : ∀ c ∈ f.constructors, c.buckets ≠ some (.bounds []))
    (others : List (List Token)) :
    readNamespace Facade.typeName (f.items rt ++ others) = some f.outline := by
  obtain ⟨-, hregister, himpl⟩ := block?_items rt f
  simp only [List.forall_mem_cons] at hregister himpl
  have hfields : (f.items rt ++ others).findSome? (readFields Facade.typeName) =
      some f.outline.fields := by
    rw [items, List.cons_append, List.findSome?_cons, readFields_structItem hrt h htypes]
  have hstatements : (f.items rt ++ others).findSome? (block? ["fn", "register_metrics"]) =
      some (f.registerBody rt) := by
    simp only [items, List.cons_append, List.findSome?_cons, hregister,
      block?_registerItem hrt f]
  have hmethods : (f.items rt ++ others).findSome? (block? ["impl", Facade.typeName]) =
      some (f.implBody rt) := by
    simp only [items, List.cons_append, List.findSome?_cons, himpl, block?_implItem f]
  have hconstructors : (entries 0 (f.registerBody rt)).filterMap readConstructor =
      f.constructors := by
    have hread : ∀ c ∈ f.constructors, readConstructor (c.tokens rt) = some (id c) :=
      fun c hc => readConstructor_tokens (fun call hcall =>
        ⟨fun hnil => hbounds c hc (hnil ▸ hcall), h.literals c hc call hcall⟩) rt
    have hothers : ∀ item ∈ [f.registration rt, f.registered], readConstructor item = none := by
      rw [List.forall_mem_cons, List.forall_mem_singleton]
      exact ⟨readConstructor_of_ne (t := code "::") (by decide),
        readConstructor_of_ne (t := code "Ok") (by decide)⟩
    rw [entries_registerBody hrt h htypes, filterMap_map_append hread hothers, List.map_id]
  -- The two functions that make a facade stand among the methods and take no instance of it.
  have hread : (entries 0 (f.implBody rt)).filterMap readMethod = f.outline.methods := by
    have hread : ∀ a ∈ f.accessors, readMethod (a.tokens rt) = some a.toMethod :=
      fun a ha => readMethod_tokens (h.accessors a ha).2.2 rt
    have haccessors := filterMap_map_append hread (List.forall_mem_nil _)
    rw [List.append_nil] at haccessors
    rw [entries_implBody hrt h htypes, List.filterMap_cons_none (readMethod_createItem),
      List.filterMap_cons_none (readMethod_createWithRegistryItem hrt), haccessors]
    rfl
  simp only [readNamespace, hfields, hstatements, hmethods, hconstructors, hread,
    Option.bind_eq_bind, Option.bind_some]
  rfl

end FacadeItems

/-! ## Modules -/

section Modules

variable {rt : String} (hrt : Identifier rt)

/-- The items that a module starts with. -/
def ownItems (rt : String) (facade : Option Facade) : List (List Token) :=
  (facade.map fun f => (FacadeItems.ofFacade f).items rt).getD []

theorem moduleTokens_eq (segment : String) (facade : Option Facade) (children : List Module) :
    (Module.mk segment facade children).tokens rt = codes ["pub", "mod", written segment]
      ++ braced ((ownItems rt facade ++ children.map (·.tokens rt)).flatten) := by
  rw [Module.tokens, modulesTokens_eq, List.flatten_append, ← List.flatMap_def]
  cases facade with
  | none => rfl
  | some f => simp [ownItems, FacadeItems.tokens_eq_items]

theorem block?_ownItems (facade : Option Facade) (segment : String) :
    ∀ item ∈ ownItems rt facade, block? ["pub", "mod", segment] item = none := by
  cases facade with
  | none => exact List.forall_mem_nil _
  | some f => exact (FacadeItems.block?_items rt (FacadeItems.ofFacade f)).1 segment

include hrt

theorem item_ownItems {facade : Option Facade}
    (h : ∀ f ∈ facade, (FacadeItems.ofFacade f).WellNamed) :
    ∀ item ∈ ownItems rt facade, Item item := by
  cases facade with
  | none => exact List.forall_mem_nil _
  | some f => exact FacadeItems.item_items hrt (h f rfl) (typesNamed_ofFacade f)

theorem item_module {m : Module} (h : m.WellNamed) : Item (m.tokens rt) := by
  induction h with
  | @mk segment facade children hname hitems _ _ ih =>
    have hhead : Level (codes ["pub", "mod", written segment]) := by
      intro depth
      simp +decide [codes, through_other, through_identifier hname]
    rw [moduleTokens_eq]
    refine .block hhead (through_flatten ?_)
    rw [List.forall_mem_append, List.forall_mem_map]
    exact ⟨item_ownItems hrt hitems, ih⟩

end Modules

/-- A module is found among its siblings by its name. -/
theorem findSome?_modules {rt : String} {modules : List Module}
    (hsiblings : (siblingNames modules).Nodup) {segment : String} {facade : Option Facade}
    {children : List Module} (hm : Module.mk segment facade children ∈ modules) :
    (modules.map (·.tokens rt)).findSome? (block? ["pub", "mod", written segment]) =
      some ((ownItems rt facade ++ children.map (·.tokens rt)).flatten) := by
  induction modules with
  | nil => cases hm
  | cons m modules ih =>
    obtain ⟨habsent, hsiblings⟩ := List.nodup_cons.1 hsiblings
    rw [List.map_cons, List.findSome?_cons]
    rcases List.mem_cons.1 hm with rfl | hm
    · rw [moduleTokens_eq]
      have hbody := block?_braced ["pub", "mod", written segment] (List.not_mem_nil)
        ((ownItems rt facade ++ children.map (·.tokens rt)).flatten)
      rw [List.nil_append] at hbody
      rw [hbody]
    · have hne : written m.segment ≠ written segment :=
        ne_of_mem_of_not_mem (List.mem_map_of_mem hm) habsent |>.symm
      have hnone : block? ["pub", "mod", written segment] (m.tokens rt) = none := by
        obtain ⟨other, _, _⟩ := m
        refine block?_of_strip ?_
        simpa [Module.tokens, Module.segment, strip, codes] using hne
      rw [hnone]
      exact ih hsiblings hm

/-- **A facade stands where its modules lead.** The path goes through the braces of one module
after the other, and behind the last the items of the facade come first. -/
theorem itemsAt_placed {rt : String} (hrt : Identifier rt) {path : List String} {f : Facade}
    {modules : List Module} (h : WellNamedForest modules)
    (hplaced : (path, some f) ∈ placedAll modules) {own : List (List Token)}
    (hown : ∀ item ∈ own, Item item)
    (hother : ∀ segment, ∀ item ∈ own, block? ["pub", "mod", segment] item = none) :
    ∃ others, itemsAt (path.map written) ((own ++ modules.map (·.tokens rt)).flatten) =
      some ((FacadeItems.ofFacade f).items rt ++ others) := by
  -- What a module holds before its inner modules changes on the way, so `own` is general.
  induction path generalizing modules own with
  | nil =>
    rw [placedAll_eq, List.mem_flatMap] at hplaced
    obtain ⟨⟨segment, facade, children⟩, -, hm⟩ := hplaced
    obtain ⟨hnil, -⟩ | ⟨below, hnil, -⟩ := mem_placed.1 hm
    · cases hnil
    · cases hnil
  | cons segment path ih =>
    obtain ⟨hsiblings, hmodules⟩ := h
    rw [placedAll_eq, List.mem_flatMap] at hplaced
    obtain ⟨⟨name, facade, children⟩, hmem, hm⟩ := hplaced
    have hname : name = segment := by
      obtain ⟨heq, -⟩ | ⟨below, heq, -⟩ := mem_placed.1 hm
      · exact (List.cons.inj heq).1.symm
      · exact (List.cons.inj heq).1.symm
    subst hname
    obtain ⟨-, hitems, hchildren, hbelow⟩ := hmodules _ hmem
    have hsplit : entries 0 (own ++ modules.map (·.tokens rt)).flatten =
        own ++ modules.map (·.tokens rt) :=
      entries_items (List.forall_mem_append.2
        ⟨hown, List.forall_mem_map.2 fun m hm => item_module hrt (hmodules m hm)⟩)
    have hfound : (own ++ modules.map (·.tokens rt)).findSome?
        (block? ["pub", "mod", written name]) =
          some ((ownItems rt facade ++ children.map (·.tokens rt)).flatten) := by
      rw [List.findSome?_append, List.findSome?_eq_none_iff.2 (hother _), Option.none_or,
        findSome?_modules hsiblings hmem]
    rw [List.map_cons, itemsAt, hsplit, hfound, Option.bind_some]
    obtain ⟨heq, rfl⟩ | ⟨below, heq, hplaced⟩ := mem_placed.1 hm
    · obtain rfl : path = [] := (List.cons.inj heq).2
      have hinside : entries 0 (ownItems rt (some f) ++ children.map (·.tokens rt)).flatten =
          ownItems rt (some f) ++ children.map (·.tokens rt) :=
        entries_items (List.forall_mem_append.2
          ⟨item_ownItems hrt hitems, List.forall_mem_map.2 fun m hm => item_module hrt (hbelow m hm)⟩)
      exact ⟨_, congrArg some hinside⟩
    · obtain rfl : path = below := (List.cons.inj heq).2
      exact ih ⟨hchildren, hbelow⟩ hplaced (item_ownItems hrt hitems) (block?_ownItems facade)

end MetricFacade.Rust
