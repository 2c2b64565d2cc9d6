import MetricFacade.Proofs.Live.Acceptance
import MetricFacade.Proofs.Rust.Checked
import MetricFacade.Proofs.Rust.Reading

/-!
# Arguments meet their labels

A constructor lists labels and an accessor takes arguments, and only their places tie the two
together: the client library pairs the values of a call with the labels of the metric one by one.
Between them stand the parameters, which are found by name. So the order is kept only if no two
labels of a metric become one parameter.

Results:

* `mapM_bindParams`: parameters with different names give back the arguments in order.
* `FacadeItems.constructor_infix`, `FacadeItems.accessor_infix`: the items of a metric are
  emitted.
* `compiled_calls`: what every call of every accessor selects.
-/
namespace MetricFacade.Rust

open Check Ident MetricFacade.Metric

/-! ## Calls -/

/-- The name that an identifier stands for, which is the same with and without a raw marker. -/
def unraw (w : String) : String :=
  if w.toList.take 2 = ['r', '#'] then String.ofList (w.toList.drop 2) else w

/-- What names stand for. -/
abbrev Env := String → Option String

/-- One parameter after the other is bound to its argument; a later one hides an earlier one. -/
def bindParams (env : Env) : List String → List String → Env
  | param :: params, arg :: args => bindParams (Function.update env param (some arg)) params args
  | _, _ => env

/-- The field that a call turns to, and the values it hands over. A call has an argument for each
parameter, and an array as many items as its type says. -/
def Method.call (m : Method) (args : List String) : Option (String × List String) :=
  if args.length = m.params.length then
    match m.body with
    | .handle field => some (field, [])
    | .child size values field =>
      let env := bindParams (fun _ => none) (m.params.map unraw) args
      if size = toString values.length then
        ((values.map unraw).mapM env).map fun values => (field, values)
      else none
  else none

/-- The labels and values of what a call selects. The client library takes a value for each label
of the metric. -/
def Building.select (b : Building) (m : Method) (args : List String) :
    Option (List (String × String)) := do
  let (field, values) ← m.call args
  if field = b.field ∧ values.length = b.labels.length then some (b.labels.zip values) else none

/-! ## Bindings -/

/-- Only the parameters are bound anew. -/
theorem bindParams_of_notMem {params : List String} {name : String} (h : name ∉ params)
    (env : Env) (args : List String) : bindParams env params args name = env name := by
  induction params generalizing env args with
  | nil => rfl
  | cons param params ih =>
    cases args with
    | nil => rfl
    | cons arg args =>
      rw [List.mem_cons, not_or] at h
      rw [bindParams, ih h.2, Function.update_of_ne h.1]

/-- Parameters with different names stand for the arguments, in order. -/
theorem mapM_bindParams {params : List String} (h : params.Nodup) (env : Env)
    {args : List String} (hlength : args.length = params.length) :
    params.mapM (bindParams env params args) = some args := by
  induction params generalizing env args with
  | nil =>
    rw [List.length_eq_zero_iff.1 hlength]
    rfl
  | cons param params ih =>
    cases args with
    | nil => cases hlength
    | cons arg args =>
      obtain ⟨hfresh, hrest⟩ := List.nodup_cons.1 h
      have hothers := ih hrest (Function.update env param (some arg)) (Nat.succ.inj hlength)
      rw [List.mapM_cons, bindParams, bindParams_of_notMem hfresh, Function.update_self, hothers]
      rfl

/-- Without different names the last argument would be handed over for all of them. -/
example : ["self_", "self_"].mapM (bindParams (fun _ => none) ["self_", "self_"] ["a", "b"]) =
    some ["b", "b"] := by decide

/-! ## Parameters -/

theorem unraw_raw (s : String) : unraw ("r#" ++ s) = s := by
  have hstart : ("r#" ++ s).toList = 'r' :: '#' :: s.toList := by
    rw [String.toList_append]
    rfl
  rw [unraw, hstart]
  simp

theorem unraw_of_bare {s : String} (h : Bare s) : unraw s = s := by
  rw [unraw, if_neg]
  intro hraw
  have hhash : '#' ∈ s.toList.take 2 := by
    rw [hraw]
    exact List.mem_cons_of_mem 'r' List.mem_cons_self
  exact hash_not_mem h (List.mem_of_mem_take hhash)

theorem unraw_written {s : String} (h : Bare s) : unraw (written s) = s := by
  rw [written_eq, escaped_of_bare h]
  split
  · exact unraw_raw s
  · exact unraw_of_bare h

/-- The parameters are told apart by what they stand for. -/
theorem unraw_paramNames {labels : List String} (h : LabelsFit labels) :
    (paramNames labels).map unraw = paramsOf labels := by
  rw [paramNames_eq, List.map_map]
  calc (paramsOf labels).map (unraw ∘ written)
      = (paramsOf labels).map id :=
        List.map_congr_left fun p hp => unraw_written (bare_of_mem_paramsOf h hp)
    _ = paramsOf labels := List.map_id _

theorem length_paramNames (labels : List String) : (paramNames labels).length = labels.length := by
  rw [paramNames, List.length_map, List.length_zipIdx]

/-- The array of the parameters comes to the arguments. -/
theorem values_paramNames {labels : List String} (h : LabelsFit labels) {args : List String}
    (hlength : args.length = labels.length) :
    ((paramNames labels).map unraw).mapM
      (bindParams (fun _ => none) ((paramNames labels).map unraw) args) = some args := by
  have hcount : args.length = (paramsOf labels).length := by
    rw [hlength, ← length_paramNames, paramNames_eq, List.length_map]
  rw [unraw_paramNames h]
  exact mapM_bindParams h.params_distinct _ hcount

/-! ## Calls of accessors -/

/-- An accessor hands over its arguments as they came, and takes no other number of them. -/
theorem call_accessor {m : Resolved} (h : LabelsFit m.labels) (args : List String) :
    (Accessor.ofMetric m).toMethod.call args =
      if args.length = m.labels.length then some ((Accessor.ofMetric m).field, args) else none := by
  have hparams : (Accessor.ofMetric m).toMethod.params = paramNames m.labels := params_accessor m
  have hcount := length_paramNames m.labels
  rw [Method.call, hparams, hcount]
  by_cases hlength : args.length = m.labels.length
  · rw [if_pos hlength, if_pos hlength]
    by_cases hnone : m.labels = []
    · have hbody : (Accessor.ofMetric m).toMethod.body = .handle (Accessor.ofMetric m).field := by
        simp [Accessor.toMethod, Accessor.body, params_accessor, hnone, paramNames]
      have hargs : args = [] := List.length_eq_zero_iff.1 (by rw [hlength, hnone, List.length_nil])
      rw [hbody, hargs]
    · have hbody : (Accessor.ofMetric m).toMethod.body =
          .child (toString (paramNames m.labels).length) (paramNames m.labels)
            (Accessor.ofMetric m).field := by
        simp [Accessor.toMethod, Accessor.body, params_accessor, hnone, paramNames]
      have hvalues := values_paramNames h hlength
      rw [hbody]
      simp [hvalues]
  · rw [if_neg hlength, if_neg hlength]

/-- A call selects the child with these values for the labels, each argument at its label. -/
theorem select_accessor {m : Resolved} (h : LabelsFit m.labels) (args : List String) :
    (Constructor.ofMetric m).toBuilding.select (Accessor.ofMetric m).toMethod args =
      if args.length = m.labels.length then some (m.labels.zip args) else none := by
  have hfield : (Accessor.ofMetric m).field = (Constructor.ofMetric m).field := by
    rw [field_accessor, field_constructor]
  have hlabels : (Constructor.ofMetric m).labels = m.labels := by rw [Constructor.ofMetric]
  rw [Building.select, call_accessor h, Constructor.toBuilding, hfield, hlabels]
  split
  · next hlength => simp [hlength]
  · rfl

/-! ## What is emitted -/

theorem infix_flatMap_of_mem {α β : Type} (g : α → List β) {l : List α} {a : α} (h : a ∈ l) :
    g a <:+: l.flatMap g := by
  obtain ⟨before, after, rfl⟩ := List.append_of_mem h
  rw [List.flatMap_append, List.flatMap_cons, ← List.append_assoc]
  exact List.infix_append _ _ _

theorem infix_braced {item content : List Token} (h : item <:+: content) :
    item <:+: braced content :=
  List.infix_append_of_infix_left (List.infix_cons h)

namespace FacadeItems

variable {f : FacadeItems} (rt : String)

theorem constructor_infix {c : Constructor} (hc : c ∈ f.constructors) :
    c.tokens rt <:+: f.tokens rt := by
  have hall : c.tokens rt <:+: f.constructors.flatMap (·.tokens rt) :=
    infix_flatMap_of_mem (Constructor.tokens rt) hc
  have hregister : c.tokens rt <:+: f.registerItem rt := by
    refine List.infix_append_of_infix_right (infix_braced ?_)
    simp only [List.append_assoc]
    exact List.infix_append_of_infix_left hall
  exact List.infix_append_of_infix_left (List.infix_append_of_infix_right hregister)

theorem accessor_infix {a : Accessor} (ha : a ∈ f.accessors) :
    a.tokens rt <:+: f.tokens rt := by
  have hall : a.tokens rt <:+: f.accessors.flatMap (·.tokens rt) :=
    infix_flatMap_of_mem (Accessor.tokens rt) ha
  have himpl : a.tokens rt <:+: braced (createItem rt ++ createWithRegistryItem rt ++
      f.accessors.flatMap (·.tokens rt)) :=
    infix_braced (List.infix_append_of_infix_right hall)
  exact List.infix_append_of_infix_right (List.infix_cons (List.infix_cons himpl))

end FacadeItems

/-! ## Whole outputs -/

/-- What is built for a metric and the method that hands it out keep the order of its labels. -/
structure KeepsOrder (labels : List String) (b : Building) (m : Method) : Prop where
  /-- The labels are listed in order. -/
  listed : b.labels = labels
  /-- The parameters are named after the labels, in order. -/
  params : m.params = paramNames labels
  /-- There are as many, so there is none without labels. -/
  count : m.params.length = labels.length
  /-- A call turns to the field that was built and hands over its arguments as they came. It has
  as many as there are labels. -/
  calls : ∀ args, m.call args =
    if args.length = labels.length then some (b.field, args) else none
  /-- Every label meets its own argument. -/
  pairs : ∀ args, b.select m args =
    if args.length = labels.length then some (labels.zip args) else none

theorem keepsOrder_ofMetric {m : Resolved} (h : LabelsFit m.labels) :
    KeepsOrder m.labels (Constructor.ofMetric m).toBuilding (Accessor.ofMetric m).toMethod where
  listed := by rw [Constructor.toBuilding, Constructor.ofMetric]
  params := by rw [Accessor.toMethod, params_accessor]
  count := by rw [Accessor.toMethod, params_accessor, length_paramNames]
  calls := by
    intro args
    rw [call_accessor h, Constructor.toBuilding, field_accessor, field_constructor]
  pairs := select_accessor h

/-- **Arguments meet their labels.** Every declaration of a set that compiles has a constructor and
an accessor among the items of its namespace. Read back from their tokens, the one lists the
canonical labels as they were declared, the other takes a text for each, and a call pairs every
label with the argument in its place. -/
theorem compiled_calls {policy : BucketPolicy} {ds : List Declaration} {fs : List Facade}
    {crateName : String} (hcompile : compile policy ds = .ok fs) (hcrate : isCrateName crateName) :
    ∀ d ∈ ds, ∃ f ∈ fs, f.scope = d.scope ∧ d.resolve ∈ f.metrics ∧
      (Constructor.ofMetric d.resolve).tokens (written crateName) <:+:
        (FacadeItems.ofFacade f).tokens (written crateName) ∧
      (Accessor.ofMetric d.resolve).tokens (written crateName) <:+:
        (FacadeItems.ofFacade f).tokens (written crateName) ∧
      ∃ b m, readBuilding ((Constructor.ofMetric d.resolve).tokens (written crateName)) = some b ∧
        readMethod ((Accessor.ofMetric d.resolve).tokens (written crateName)) = some m ∧
        KeepsOrder (d.labels.map canonicalize) b m := by
  obtain ⟨rfl, hnameable, -⟩ := compile_ok hcompile
  have hrt : Identifier (written crateName) := written_identifier (TokenLibrary.bare_crate hcrate)
  intro d hd
  obtain ⟨f, hf, hscope, hmetric⟩ := Live.exists_facade_of_mem hd
  have hfit : LabelsFit d.resolve.labels := hnameable.labels d hd
  have hparams : ∀ p ∈ (Accessor.ofMetric d.resolve).params, Identifier p := by
    rw [params_accessor]
    exact (paramNames_fit hfit).1
  refine ⟨f, hf, hscope, hmetric, ?_, ?_, (Constructor.ofMetric d.resolve).toBuilding,
    (Accessor.ofMetric d.resolve).toMethod, ?_, ?_, ?_⟩
  · exact FacadeItems.constructor_infix _ (List.mem_map_of_mem hmetric)
  · exact FacadeItems.accessor_infix _ (List.mem_map_of_mem hmetric)
  · exact readBuilding_tokens hrt _
  · exact readMethod_tokens hparams _
  · exact keepsOrder_ofMetric hfit

/-- Labels that are words of the language, bind nothing, or need a blank written. -/
def parcelsSample : List Declaration :=
  [⟨"mail", "Parcels", .counter, none, "", ["type", "_", " post code ", "self"], []⟩,
   ⟨"mail", "Vans", .gauge, none, "", [], []⟩]

theorem parcelsSample_calls :
    compile .strict parcelsSample = .ok (facades parcelsSample) ∧ isCrateName defaultCrate ∧
      ∀ d ∈ parcelsSample, ∃ b m,
        readBuilding ((Constructor.ofMetric d.resolve).tokens (written defaultCrate)) = some b ∧
        readMethod ((Accessor.ofMetric d.resolve).tokens (written defaultCrate)) = some m ∧
        KeepsOrder (d.labels.map canonicalize) b m := by
  have hcompile : compile .strict parcelsSample = .ok (facades parcelsSample) :=
    compile_eq_ok_iff.2 ⟨by decide +kernel, rfl⟩
  have hcrate : isCrateName defaultCrate := by decide
  refine ⟨hcompile, hcrate, fun d hd => ?_⟩
  obtain ⟨f, -, -, -, -, -, hread⟩ := compiled_calls hcompile hcrate d hd
  exact hread

end MetricFacade.Rust
