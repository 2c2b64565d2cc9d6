import MetricFacade.Proofs.Rust.Reading
import MetricFacade.Proofs.Rust.WellNamed

/-!
# The statics of a namespace

The items of a namespace declare one static, its cache of facades. All other tokens are gone
through to see that none of them is the word `static`: what a user has named is an identifier, and a
keyword is none without its raw marker.

Results:

* `statics_append`: tokens without the word declare nothing.
* `FacadeItems.statics_tokens`: what the items of a namespace declare.
-/
namespace MetricFacade.Rust

open Ident Token MetricFacade.Metric

/-- The statics that a list of tokens declares. -/
def statics : List Token → List String
  | [] => []
  | t :: tokens =>
    (if t = code "static" then (word tokens).toList.map (·.1) else []) ++ statics tokens

theorem statics_append {before : List Token} (h : code "static" ∉ before) (after : List Token) :
    statics (before ++ after) = statics after := by
  induction before with
  | nil => rfl
  | cons t before ih =>
    rw [List.mem_cons, not_or] at h
    rw [List.cons_append, statics, if_neg (Ne.symm h.1), ih h.2, List.nil_append]

theorem statics_of_notMem {tokens : List Token} (h : code "static" ∉ tokens) :
    statics tokens = [] := by
  have happend := statics_append h []
  rwa [List.append_nil] at happend

theorem static_ne_repr (n : Nat) : "static" ≠ n.repr := by
  intro h
  have hletter : 's' ∈ n.repr.toList := by
    rw [← h]
    decide
  rw [Nat.repr_eq_ofList_toDigits, String.toList_ofList] at hletter
  exact absurd (Nat.isDigit_of_mem_toDigits (by decide) (by decide) hletter) (by decide)

theorem static_ne_typeName : code "static" ≠ FacadeItems.typeName := by decide

section Items

variable {rt : String} (hrt : Identifier rt)

include hrt

theorem static_notMem_clientItem {path : List String} (h : "static" ∉ path) :
    code "static" ∉ clientItem rt path :=
  notMem_clientItem foreign_static (by decide) hrt h

theorem static_notMem_crateItem {path : List String} (h : "static" ∉ path) :
    code "static" ∉ crateItem rt path :=
  notMem_crateItem foreign_static hrt (by decide) h

theorem static_notMem_constructor {c : Constructor} (hfield : Identifier c.field)
    (hhandle : c.handle ≠ "static") : code "static" ∉ c.tokens rt := by
  have hoptions := notMem_options foreign_static (by decide) hrt c
  have htype : code "static" ∉ clientItem rt [c.handle] :=
    static_notMem_clientItem hrt (by simp [hhandle.symm])
  have hlabels : code "static" ∉ commaSeparated (c.labels.map fun label => [text label]) :=
    notMem_commaSeparated (by decide) (by simp)
  have harguments : code "static" ∉ c.arguments rt := by
    unfold Constructor.arguments
    split <;> simp [hoptions, hlabels]
  simp [c.tokens_eq, foreign_static.name _ hfield, htype, harguments]

theorem static_notMem_accessor {a : Accessor}
    (h : Identifier a.name ∧ Identifier a.field ∧ ∀ p ∈ a.params, Identifier p)
    (hchild : a.child ≠ "static") : code "static" ∉ a.tokens rt := by
  obtain ⟨hname, hfield, hparams⟩ := h
  have hname := foreign_static.name _ hname
  have hfield := foreign_static.name _ hfield
  have hparam : ∀ p ∈ a.params, "static" ≠ p := fun p hp => foreign_static.name p (hparams p hp)
  have htype : code "static" ∉ clientItem rt [a.child] :=
    static_notMem_clientItem hrt (by simp [hchild.symm])
  have hlist : code "static" ∉ commaSeparated
      (codes ["&", "self"] :: a.params.map fun p => codes [p, ":", "&", "str"]) := by
    refine notMem_commaSeparated (by decide) ?_
    rw [List.forall_mem_cons, List.forall_mem_map]
    exact ⟨by simp, fun p hp => by simp [hparam p hp]⟩
  have hvalues : code "static" ∉ commaSeparated (a.params.map fun p => [code p]) := by
    refine notMem_commaSeparated (by decide) ?_
    rw [List.forall_mem_map]
    exact fun p hp => by simp [hparam p hp]
  have hbody : code "static" ∉ a.bodyTokens := by
    unfold Accessor.bodyTokens Accessor.valuesArray
    split <;> simp [hfield, hvalues, static_ne_repr]
  have hattributes := a.notMem_attributes (show "static" ∉ _ by decide)
  rw [a.tokens_eq, Accessor.method]
  simp only [List.mem_append, List.mem_cons, not_or]
  refine ⟨hattributes, ?_, ?_, ?_, ?_, hlist, ?_, ?_, htype, ?_, hbody⟩
  all_goals simp [hname]

namespace FacadeItems

variable {f : FacadeItems}

/-- What a type is called is no keyword. -/
structure Typed (f : FacadeItems) : Prop where
  handles : ∀ c ∈ f.constructors, c.handle ≠ "static"
  children : ∀ a ∈ f.accessors, a.child ≠ "static"

/-- The constructors of the facade and the accessors. -/
def implItem (rt : String) (f : FacadeItems) : List Token :=
  code "impl" :: typeName :: braced
    (createItem rt ++ createWithRegistryItem rt ++ f.accessors.flatMap (·.tokens rt))

theorem static_notMem_structItem (h : f.WellNamed) (htyped : f.Typed) :
    code "static" ∉ f.structItem rt := by
  have hfields : code "static" ∉ commaTerminated (f.constructors.map fun c =>
      codes [c.field, ":"] ++ clientItem rt [c.handle]) := by
    refine notMem_commaTerminated (by decide) (List.forall_mem_map.2 fun c hc => ?_)
    have hfield := foreign_static.name _ (h.constructors c hc)
    have htype : code "static" ∉ clientItem rt [c.handle] :=
      static_notMem_clientItem hrt (by simp [(htyped.handles c hc).symm])
    simp [hfield, htype]
  simp [structItem, docItem, metaItem, braced, static_ne_typeName, hfields]

theorem static_notMem_registerItem (h : f.WellNamed) (htyped : f.Typed) :
    code "static" ∉ f.registerItem rt := by
  have hbuilt : code "static" ∉ f.constructors.flatMap (·.tokens rt) := by
    rw [List.mem_flatMap]
    rintro ⟨c, hc, hstatic⟩
    exact static_notMem_constructor hrt (h.constructors c hc) (htyped.handles c hc) hstatic
  have hfield : ∀ field ∈ f.constructors.map (·.field), "static" ≠ field := by
    rw [List.forall_mem_map]
    exact fun c hc => foreign_static.name _ (h.constructors c hc)
  have hcollectors : code "static" ∉
      commaTerminated ((f.constructors.map (·.field)).map (collector rt)) := by
    refine notMem_commaTerminated (by decide) (List.forall_mem_map.2 fun field hin => ?_)
    simp [collector, hfield field hin, static_notMem_clientItem hrt]
  have hfields : code "static" ∉
      commaTerminated ((f.constructors.map (·.field)).map fun field => [code field]) := by
    refine notMem_commaTerminated (by decide) (List.forall_mem_map.2 fun field hin => ?_)
    simp [hfield field hin]
  unfold registerItem clientResult braced
  simp only [List.mem_append, List.mem_cons, not_or]
  simp [-List.map_map, static_notMem_clientItem hrt, static_notMem_crateItem hrt,
    static_ne_typeName, hbuilt, hcollectors, hfields]

theorem cacheItem_eq : ∃ rest, cacheItem rt = code "static" :: code "FACADES" :: rest ∧
    code "static" ∉ rest := by
  refine ⟨codes [":"] ++ crateItem rt ["FacadeCache"] ++ code "<" :: typeName :: codes [">", "="]
    ++ crateItem rt ["FacadeCache", "new"] ++ codes ["(", ")", ";"], ?_, ?_⟩
  · simp [cacheItem, codes]
  · simp [static_notMem_crateItem hrt, static_ne_typeName]

theorem static_notMem_createItems :
    code "static" ∉ createItem rt ++ createWithRegistryItem rt := by
  simp [createItem, createWithRegistryItem, sharedResult, docItem, metaItem, braced,
    static_notMem_clientItem hrt, static_notMem_crateItem hrt]

theorem static_notMem_implItem (h : f.WellNamed) (htyped : f.Typed) :
    code "static" ∉ f.implItem rt := by
  have hcreate := static_notMem_createItems hrt
  have haccessors : code "static" ∉ f.accessors.flatMap (·.tokens rt) := by
    rw [List.mem_flatMap]
    rintro ⟨a, ha, hstatic⟩
    exact static_notMem_accessor hrt (h.accessors a ha) (htyped.children a ha) hstatic
  rw [List.mem_append, not_or] at hcreate
  simp [implItem, braced, hcreate, haccessors, static_ne_typeName]

/-- **The items of a namespace declare one static**, the cache. -/
theorem statics_tokens (h : f.WellNamed) (htyped : f.Typed) :
    statics (f.tokens rt) = ["FACADES"] := by
  obtain ⟨rest, hcache, hrest⟩ := cacheItem_eq hrt
  have htokens : f.tokens rt = (f.structItem rt ++ debugItem) ++
      code "static" :: code "FACADES" :: (rest ++ (f.registerItem rt ++ f.implItem rt)) := by
    simp only [tokens, implItem, hcache, List.append_assoc, List.cons_append]
  have hbefore : code "static" ∉ f.structItem rt ++ debugItem := by
    rw [List.mem_append, not_or]
    exact ⟨static_notMem_structItem hrt h htyped, by decide⟩
  have hbehind : code "static" ∉ rest ++ (f.registerItem rt ++ f.implItem rt) := by
    rw [List.mem_append, List.mem_append, not_or, not_or]
    exact ⟨hrest, static_notMem_registerItem hrt h htyped, static_notMem_implItem hrt h htyped⟩
  have hnext : statics (code "FACADES" :: (rest ++ (f.registerItem rt ++ f.implItem rt))) = [] :=
    statics_of_notMem (by simpa using hbehind)
  rw [htokens, statics_append hbefore, statics, hnext]
  rfl

end FacadeItems

end Items

theorem kind_name_ne_static (k : Kind) : k.name ≠ "static" ∧ k.name ++ "Vec" ≠ "static" := by
  cases k <;> decide

theorem typed_ofFacade (f : Facade) : (FacadeItems.ofFacade f).Typed := by
  obtain ⟨hhandles, hchildren⟩ := types_ofFacade (p := (· ≠ "static")) kind_name_ne_static f
  exact ⟨hhandles, hchildren⟩

end MetricFacade.Rust
