import MetricFacade.Proofs.Live.Acceptance
import MetricFacade.Proofs.Rust.Checked
import MetricFacade.Proofs.Rust.Statics

/-!
# Parameters that name a value in scope

A parameter may not have the name of a static, or of a constructor such as `Some`: a pattern with
such a name does not bind anything. Labels become parameters as they are spelled, and the checks
keep them off path keywords and off each other, but know nothing of these names. So what compiles
may still be no legal code, and exactly the labels that are spelled like one of them are to blame.

Results:

* `mem_paramNames_iff`: a parameter has such a name only if a label has.
* `compiled_shadows_iff`: the two brought together, for what compiles.
* `not_all_compiled_params_bind`: the checks do not rule such a label out.
-/
namespace MetricFacade.Rust

open Check Ident MetricFacade.Metric

/-! ## Names that are taken -/

/-- The constructors of options and results, which are in scope everywhere. -/
def preludeConstructors : List String :=
  ["None", "Some", "Ok", "Err"]

/-- The names that a parameter may not have among these items. -/
def unshadowable (items : List Token) : List String :=
  statics items ++ preludeConstructors

/-! ## Labels with such a name -/

/-- Every name that is taken is written as it is, and has nothing that escaping adds. -/
theorem taken_plain : ∀ name ∈ "FACADES" :: preludeConstructors,
    isWord name ∧ name ∉ pathKeywords ∧ name ∉ keywords ∧ '_' ∉ name.toList ∧
      ' ' ∉ name.toList := by decide

/-- Of all labels only the name itself becomes a parameter of a name without `_`. -/
theorem param_eq_iff {label name : String} (hpath : name ∉ pathKeywords)
    (hunder : '_' ∉ name.toList) (i : Nat) : param label i = name ↔ label = name := by
  have hlone : name ≠ "_" := by
    rintro rfl
    exact hunder (by decide)
  constructor
  · rintro rfl
    unfold param escaped at hunder ⊢
    split
    · next hlabel => exact absurd (by simp [hlabel]) hunder
    · next hlabel =>
      rw [if_neg hlabel] at hunder
      split
      · next hescaped => exact absurd (by simp [hescaped]) hunder
      · rfl
  · rintro rfl
    rw [param, if_neg hlone, escaped, if_neg hpath]

theorem mem_paramsOf_iff {labels : List String} {name : String} (hpath : name ∉ pathKeywords)
    (hunder : '_' ∉ name.toList) : name ∈ paramsOf labels ↔ name ∈ labels := by
  have hsome : (∃ p ∈ paramsOf labels, p = name) ↔ ∃ label ∈ labels, label = name :=
    exists_mem_paramsOf (fun _ i => param_eq_iff hpath hunder i) labels
  rwa [exists_eq_right, exists_eq_right] at hsome

/-- A parameter has a name that is taken exactly if a label has it. -/
theorem mem_paramNames_iff {labels : List String} (h : LabelsFit labels) {name : String}
    (hname : name ∈ "FACADES" :: preludeConstructors) :
    name ∈ paramNames labels ↔ name ∈ labels := by
  obtain ⟨hword, hpath, hkeyword, hunder, -⟩ := taken_plain name hname
  have hwritten : written name = name := by
    rw [written_eq, escaped, if_neg hpath, if_neg hkeyword]
  have hbare : Bare name :=
    ⟨isWord_iff.1 hword, fun hlone => hunder (by rw [hlone]; decide), hpath⟩
  rw [paramNames_eq, List.mem_map, ← mem_paramsOf_iff hpath hunder]
  constructor
  · rintro ⟨p, hp, hpname⟩
    have hp' := bare_of_mem_paramsOf h hp
    have hsame := written_injective (by rwa [escaped_of_bare hp']) (by rwa [escaped_of_bare hbare])
      (hpname.trans hwritten.symm)
    rw [escaped_of_bare hp', escaped_of_bare hbare] at hsame
    exact hsame ▸ hp
  · intro hin
    exact ⟨name, hin, hwritten⟩

/-! ## What compiles -/

variable {policy : BucketPolicy} {ds : List Declaration} {fs : List Facade} {crateName : String}

theorem unshadowable_compiled (h : compile policy ds = .ok fs) (hcrate : isCrateName crateName) :
    ∀ f ∈ fs, unshadowable ((FacadeItems.ofFacade f).tokens (written crateName)) =
      "FACADES" :: preludeConstructors := by
  obtain ⟨rfl, hnameable, hsound⟩ := compile_ok h
  have hrt : Identifier (written crateName) := written_identifier (TokenLibrary.bare_crate hcrate)
  intro f hf
  have hnamed := FacadeItems.wellNamed hnameable hsound hf
  rw [unshadowable, FacadeItems.statics_tokens hrt hnamed (typed_ofFacade f)]
  rfl

/-- **Labels that shadow.** In what compiles, the names that no parameter may have are those of
the cache and of the constructors of options and results. An accessor has a parameter with such a
name exactly if its declaration has a label that is spelled like it, between blanks perhaps. -/
theorem compiled_shadows_iff (h : compile policy ds = .ok fs) (hcrate : isCrateName crateName) :
    ∀ d ∈ ds, ∃ f ∈ fs, f.scope = d.scope ∧
      Accessor.ofMetric d.resolve ∈ (FacadeItems.ofFacade f).accessors ∧
      unshadowable ((FacadeItems.ofFacade f).tokens (written crateName)) =
        ["FACADES", "None", "Some", "Ok", "Err"] ∧
      ∀ name ∈ unshadowable ((FacadeItems.ofFacade f).tokens (written crateName)),
        name ∈ (Accessor.ofMetric d.resolve).params ↔
          ∃ raw ∈ d.labels, Text.trim raw.toList = name.toList := by
  have htaken := unshadowable_compiled h hcrate
  obtain ⟨rfl, hnameable, -⟩ := compile_ok h
  intro d hd
  obtain ⟨f, hf, hscope, hmetric⟩ := Live.exists_facade_of_mem hd
  refine ⟨f, hf, hscope, List.mem_map_of_mem hmetric, htaken f hf, ?_⟩
  intro name hname
  rw [htaken f hf] at hname
  obtain ⟨-, -, -, hunder, hspace⟩ := taken_plain name hname
  have hlabels : d.resolve.labels = d.labels.map canonicalize := rfl
  have hfit : LabelsFit (d.labels.map canonicalize) := hnameable.labels d hd
  rw [params_accessor, hlabels, mem_paramNames_iff hfit hname, List.mem_map]
  simp only [Live.canonicalize_eq_iff hunder hspace]

/-- A label like the cache, and one like a constructor between blanks. -/
def cachesSample : List Declaration :=
  [⟨"store", "Lookups", .counter, none, "", ["FACADES", " None "], []⟩,
   ⟨"store", "Entries", .gauge, none, "", ["shard"], []⟩]

theorem compile_cachesSample (policy : BucketPolicy) :
    compile policy cachesSample = .ok (facades cachesSample) :=
  compile_eq_ok_iff.2 ⟨by cases policy <;> decide +kernel, rfl⟩

theorem cachesSample_shadows :
    compile .strict cachesSample = .ok (facades cachesSample) ∧ isCrateName defaultCrate ∧
      ∀ d ∈ cachesSample, ∀ name ∈ ["FACADES", "None", "Some", "Ok", "Err"],
        name ∈ (Accessor.ofMetric d.resolve).params ↔
          ∃ raw ∈ d.labels, Text.trim raw.toList = name.toList := by
  have hcompile := compile_cachesSample .strict
  have hcrate : isCrateName defaultCrate := by decide
  refine ⟨hcompile, hcrate, fun d hd => ?_⟩
  obtain ⟨f, -, -, -, htaken, hshadows⟩ := compiled_shadows_iff hcompile hcrate d hd
  rwa [htaken] at hshadows

/-- A set may compile and yet have accessors with parameters that do not bind. -/
theorem not_all_compiled_params_bind :
    ¬ ∀ policy ds fs crateName, compile policy ds = .ok fs → isCrateName crateName →
      ∀ f ∈ fs, ∀ a ∈ (FacadeItems.ofFacade f).accessors, ∀ p ∈ a.params,
        p ∉ unshadowable ((FacadeItems.ofFacade f).tokens (written crateName)) := by
  intro hall
  have hcrate : isCrateName defaultCrate := by decide
  have hcompile := compile_cachesSample .strict
  have hdeclared : ∃ d ∈ cachesSample, d.resolvedLabels = ["FACADES", "None"] :=
    ⟨_, List.mem_cons_self, by decide +kernel⟩
  obtain ⟨d, hd, hlabels⟩ := hdeclared
  obtain ⟨f, hf, -, hmetric⟩ := Live.exists_facade_of_mem hd
  have hfree := hall _ _ _ _ hcompile hcrate f hf _ (List.mem_map_of_mem hmetric) "FACADES"
  have hparams : (Accessor.ofMetric d.resolve).params = paramNames d.resolvedLabels :=
    params_accessor d.resolve
  rw [unshadowable_compiled hcompile hcrate f hf, hparams, hlabels] at hfree
  exact hfree (by decide +kernel) List.mem_cons_self

end MetricFacade.Rust
