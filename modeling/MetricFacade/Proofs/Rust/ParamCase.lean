import Mathlib.Data.List.DropRight
import MetricFacade.Proofs.Rust.Arguments

/-!
# Parameters in another case

The compiler finds fault with a parameter that has a capital or two underscores in a row, once the
underscores at its ends are left aside. The backend allows that on the accessor. It decides so from
the labels and not from the parameters: a label needs the allowance if snake case does not leave it
as it is behind its leading underscores. Snake case drops an underscore at the end, which the
compiler does not mind, and changes nothing else that the compiler finds no fault with.

Results:

* `otherCase_param`: a parameter is found fault with exactly if its label would be.
* `needsAllowance_iff`: the labels that need the allowance, said without snake case.
* `allows_tokens`: the allowance stands among the attributes if some label needs it.
* `compiled_params_case`: what compiles has the allowance wherever the compiler asks for it.
-/
namespace MetricFacade.Rust

open Check Ident Token MetricFacade.Metric

/-! ## What the compiler finds fault with -/

/-- A name without the underscores it starts with. -/
def behindMarks (name : String) : List Char :=
  name.toList.dropWhile (· = '_')

/-- What is left of a name without the underscores at its ends. -/
def core (name : String) : List Char :=
  (behindMarks name).rdropWhile (· = '_')

/-- The name is not in snake case, as the compiler sees it. -/
def OtherCase (name : String) : Prop :=
  (∃ c ∈ core name, Text.isUppercase c) ∨ ['_', '_'] <:+: core name

theorem not_otherCase {name : String}
    (hchars : ∀ c ∈ behindMarks name, c.isLower ∨ c.isDigit ∨ c = '_')
    (hsingle : ¬ ['_', '_'] <:+: behindMarks name) : ¬ OtherCase name := by
  have hcore : core name <+: behindMarks name := List.rdropWhile_prefix _ _
  rintro (⟨c, hc, hupper⟩ | hdouble)
  · have hcaseless : Text.isUppercase c = false := by
      rcases hchars c (hcore.subset hc) with hlower | hdigit | rfl
      · exact Text.isUppercase_of_small (.inl hlower)
      · exact Text.isUppercase_of_small (.inr hdigit)
      · decide
    rw [hcaseless] at hupper
    cases hupper
  · exact hsingle (hdouble.trans hcore.isInfix)

theorem not_otherCase_lone : ¬ OtherCase "_" := by
  have hnothing : behindMarks "_" = [] := by decide
  exact not_otherCase (by simp [hnothing]) (by simp [hnothing])

/-- One underscore more at the end changes nothing. -/
theorem core_append_mark (name : String) : core (name ++ "_") = core name := by
  have hmark : ("_" : String).toList = ['_'] := rfl
  rw [core, core, behindMarks, behindMarks, String.toList_append, hmark, List.dropWhile_append]
  split
  · next hnone =>
    rw [List.isEmpty_iff.1 hnone]
    simp
  · exact List.rdropWhile_concat_pos _ _ _ (by simp)

/-! ## Parameters -/

theorem otherCase_escaped (name : String) : OtherCase (escaped name) ↔ OtherCase name := by
  unfold escaped
  split
  · rw [OtherCase, OtherCase, core_append_mark]
  · rfl

theorem smallWord_digits (n : Nat) : Text.SmallWord (toString n).toList := by
  rw [Nat.toString_eq_ofList_toDigits, String.toList_ofList]
  exact ⟨Nat.toDigits_ne_nil, fun c hc =>
    .inr (Nat.isDigit_of_mem_toDigits (by decide) (by decide) hc)⟩

theorem not_otherCase_positional (i : Nat) : ¬ OtherCase ("label_" ++ toString i) := by
  have hwords : ∀ w ∈ ["label".toList, (toString i).toList], Text.SmallWord w := by
    rw [List.forall_mem_cons, List.forall_mem_singleton]
    have hletters : ∀ c ∈ "label".toList, c.isLower := List.all_eq_true.1 (by decide)
    exact ⟨⟨by decide, fun c hc => .inl (hletters c hc)⟩, smallWord_digits i⟩
  have hjoined : ("label_" ++ toString i).toList =
      ['_'].intercalate ["label".toList, (toString i).toList] := by
    rw [String.toList_append]
    simp
  have hbehind : behindMarks ("label_" ++ toString i) =
      ['_'].intercalate ["label".toList, (toString i).toList] := by
    rw [behindMarks, hjoined]
    rfl
  refine not_otherCase ?_ ?_
  · rw [hbehind]
    exact Text.chars_joined hwords
  · rw [hbehind]
    exact Text.not_double_infix_joined hwords

/-- A parameter is found fault with exactly if its label would be. -/
theorem otherCase_param (label : String) (i : Nat) :
    OtherCase (param label i) ↔ OtherCase label := by
  unfold param
  split
  · next hlone =>
    subst hlone
    exact iff_of_false (not_otherCase_positional i) not_otherCase_lone
  · exact otherCase_escaped label

/-! ## Which labels need the allowance -/

theorem split_behindMarks (label : String) :
    label.toList.takeWhile (· = '_') ++ behindMarks label = label.toList :=
  List.takeWhile_append_dropWhile

theorem head?_behindMarks (label : String) : (behindMarks label).head? ≠ some '_' := by
  intro hmark
  have hnot := List.head?_dropWhile_not (· = '_') label.toList
  rw [← behindMarks, hmark] at hnot
  cases hnot

/-- Snake case leaves the underscores in front out of account. -/
theorem snakeCase_behindMarks (label : String) :
    (Text.snakeCase label).toList = Text.snakeChars (behindMarks label) := by
  have hlead : ∀ c ∈ label.toList.takeWhile (· = '_'), c = '_' := fun c hc => by
    simpa using List.mem_takeWhile_imp hc
  rw [Text.toList_snakeCase, Text.snakeChars, Text.snakeChars, ← split_behindMarks label,
    Text.words_skip_marks hlead]

theorem chars_behindMarks {label : String} (h : LabelShape label) :
    ∀ c ∈ behindMarks label, c.isAlphanum ∨ c = '_' := by
  intro c hc
  have hin : c ∈ label.toList := (List.dropWhile_suffix _).subset hc
  exact isWordChar_iff.1 (h.1.chars c hin)

/-- A label has no more than one underscore in front. -/
theorem behindMarks_ne_nil {label : String} (h : LabelShape label) (hlone : label ≠ "_") :
    behindMarks label ≠ [] := by
  obtain ⟨⟨c, rest, hlabel, -⟩, htwo⟩ := h
  intro hnil
  have hmarks : ∀ d ∈ c :: rest, d = '_' := fun d hd => by
    simpa using List.dropWhile_eq_nil_iff.1 hnil d (hlabel ▸ hd)
  obtain ⟨rfl, hrest⟩ := List.forall_mem_cons.1 hmarks
  rw [hlabel] at htwo
  cases rest with
  | nil => exact hlone (String.toList_inj.1 hlabel)
  | cons d rest =>
    rw [hrest d List.mem_cons_self] at htwo
    exact htwo ⟨rest, rfl⟩

theorem getLast?_behindMarks {label : String} (hne : behindMarks label ≠ []) :
    (behindMarks label).getLast? = label.toList.getLast? := by
  rw [← split_behindMarks label, List.getLast?_append_of_ne_nil _ hne]

/-- What snake case leaves as it is has nothing that the compiler minds, and no underscore at the
end. -/
theorem left_of_snakeCase {label : String} (h : LabelShape label)
    (hsame : (Text.snakeCase label).toList = behindMarks label) :
    ¬ OtherCase label ∧ (behindMarks label).getLast? ≠ some '_' := by
  have hwords := Text.smallWord_of_mem_words (chars_behindMarks h)
  rw [snakeCase_behindMarks, Text.snakeChars] at hsame
  refine ⟨not_otherCase ?_ ?_, ?_⟩
  · rw [← hsame]
    exact Text.chars_joined hwords
  · rw [← hsame]
    exact Text.not_double_infix_joined hwords
  · rw [← hsame]
    exact Text.getLast?_joined_ne hwords

/-- The other way round: of what the compiler does not mind, snake case changes no more than the
end. -/
theorem snakeCase_of_left {label : String} (h : LabelShape label) (hcase : ¬ OtherCase label)
    (hends : (behindMarks label).getLast? ≠ some '_') :
    (Text.snakeCase label).toList = behindMarks label := by
  have hcore : core label = behindMarks label := by
    rw [core, List.rdropWhile_eq_self_iff]
    intro hne hmark
    rw [List.getLast?_eq_some_getLast hne] at hends
    exact hends (congrArg some (of_decide_eq_true hmark))
  rw [OtherCase, hcore, not_or] at hcase
  obtain ⟨hcapital, hsingle⟩ := hcase
  have hsmall : ∀ c ∈ behindMarks label, c.isLower ∨ c.isDigit ∨ c = '_' := by
    intro c hc
    rcases chars_behindMarks h c hc with hal | hmark
    · rcases Text.isAlphanum_iff.1 hal with hupper | hlower | hdigit
      · exact absurd ⟨c, hc, Text.isUppercase_of_isUpper hupper⟩ hcapital
      · exact .inl hlower
      · exact .inr (.inl hdigit)
    · exact .inr (.inr hmark)
  rw [snakeCase_behindMarks]
  exact Text.snakeChars_eq_self hsmall hsingle (head?_behindMarks label) hends

theorem needsAllowance_label {label : String} (h : LabelShape label) :
    (Text.snakeCase label).toList ≠ behindMarks label ↔
      OtherCase label ∨ label ≠ "_" ∧ label.toList.getLast? = some '_' := by
  by_cases hlone : label = "_"
  · subst hlone
    have hnothing : (Text.snakeCase "_").toList = behindMarks "_" := by decide
    simp [not_otherCase_lone, hnothing]
  · rw [← getLast?_behindMarks (behindMarks_ne_nil h hlone), ne_eq, not_iff_comm, not_or, not_and]
    constructor
    · rintro ⟨hcase, hends⟩
      exact snakeCase_of_left h hcase (hends hlone)
    · intro hsame
      obtain ⟨hcase, hends⟩ := left_of_snakeCase h hsame
      exact ⟨hcase, fun _ => hends⟩

/-- The allowance is asked for exactly if the compiler would mind a parameter or a label ends in an
underscore. -/
theorem needsAllowance_iff {labels : List String} (h : ∀ label ∈ labels, LabelShape label) :
    needsSnakeCaseAllowance labels ↔ (∃ p ∈ paramsOf labels, OtherCase p) ∨
      ∃ label ∈ labels, label ≠ "_" ∧ label.toList.getLast? = some '_' := by
  rw [exists_mem_paramsOf otherCase_param, ← exists_or]
  simp only [← and_or_left, needsSnakeCaseAllowance, List.any_eq_true, bne_iff_ne, ne_eq]
  exact exists_congr fun label => and_congr_right fun hlabel =>
    needsAllowance_label (h label hlabel)

example : ["_", "self", "_booth", "post_code2", "pollingPlace", "two__marks", "type_"].map
    (needsSnakeCaseAllowance [·]) = [false, false, false, false, true, true, true] := by decide

/-! ## What is emitted -/

/-- Among the attributes of a method there is one that allows the lint. -/
def Allows (lint : String) (tokens : List Token) : Prop :=
  codes ["#", "[", "allow", "(", lint] <:+: tokens.takeWhile (· ≠ code "pub")

namespace Accessor

theorem takeWhile_tokens (a : Accessor) (rt : String) :
    (a.tokens rt).takeWhile (· ≠ code "pub") = a.attributes := by
  have hpub : code "pub" ∉ a.attributes := a.notMem_attributes (by decide)
  have hskip : ∀ t ∈ a.attributes, decide (t ≠ code "pub") = true := fun t ht =>
    decide_eq_true (ne_of_mem_of_not_mem ht hpub)
  rw [a.tokens_eq, List.takeWhile_append_of_pos hskip, method,
    List.takeWhile_cons_of_neg (by simp), List.append_nil]

end Accessor

/-- The allowance stands among the attributes exactly where a label asks for it. -/
theorem allows_tokens (a : Accessor) (rt : String) :
    Allows "non_snake_case" (a.tokens rt) ↔ a.params ≠ [] ∧ a.allowsOtherCase := by
  have hplain : code "allow" ∉ docItem (text a.help) ++ metaItem [code "must_use"] := by
    simp [docItem, metaItem, codes]
  rw [Allows, a.takeWhile_tokens]
  by_cases hall : a.params ≠ [] ∧ a.allowsOtherCase
  · refine iff_of_true ⟨docItem (text a.help), codes [",", "reason", "="] ++
      text "parameters are named after their labels" :: (codes [")", "]"] ++
        metaItem [code "must_use"]), ?_⟩ hall
    simp [Accessor.attributes, Accessor.allowance, hall, metaItem, codes]
  · refine iff_of_false ?_ hall
    have hattributes : a.attributes = docItem (text a.help) ++ metaItem [code "must_use"] := by
      unfold Accessor.attributes
      split
      · rfl
      · next hsome =>
        have hno : a.allowsOtherCase = false := by simpa [List.isEmpty_iff.not.1 hsome] using hall
        simp [Accessor.allowance, hno]
    rw [hattributes]
    exact fun hin => hplain (hin.subset (by simp [codes]))

/-! ## Whole outputs -/

/-- An accessor allows what the compiler would find fault with. -/
structure AllowsCase (labels : List String) (tokens : List Token) (m : Method) : Prop where
  /-- Without the allowance there is no fault to find. -/
  sound : ¬ Allows "non_snake_case" tokens → ∀ p ∈ m.params, ¬ OtherCase (unraw p)
  /-- With it there is one, or a label ends in an underscore. -/
  needed : Allows "non_snake_case" tokens → (∃ p ∈ m.params, OtherCase (unraw p)) ∨
    ∃ label ∈ labels, label ≠ "_" ∧ label.toList.getLast? = some '_'

theorem allows_ofMetric {m : Resolved} (h : LabelsFit m.labels) (rt : String) :
    Allows "non_snake_case" ((Accessor.ofMetric m).tokens rt) ↔
      (∃ p ∈ paramsOf m.labels, OtherCase p) ∨
        ∃ label ∈ m.labels, label ≠ "_" ∧ label.toList.getLast? = some '_' := by
  have hallows : (Accessor.ofMetric m).allowsOtherCase = needsSnakeCaseAllowance m.labels := by
    rw [Accessor.ofMetric]
  rw [allows_tokens, params_accessor, hallows, ← needsAllowance_iff h.spelled,
    and_iff_right_iff_imp]
  -- Without labels there is none that needs it.
  intro hneeds hnone
  rw [← List.length_eq_zero_iff, length_paramNames, List.length_eq_zero_iff] at hnone
  rw [hnone] at hneeds
  cases hneeds

theorem allowsCase_ofMetric {m : Resolved} (h : LabelsFit m.labels) (rt : String) :
    AllowsCase m.labels ((Accessor.ofMetric m).tokens rt) (Accessor.ofMetric m).toMethod := by
  have hparams : (Accessor.ofMetric m).toMethod.params = paramNames m.labels := params_accessor m
  have hcase : (∃ p ∈ (Accessor.ofMetric m).toMethod.params, OtherCase (unraw p)) ↔
      ∃ p ∈ paramsOf m.labels, OtherCase p := by
    rw [hparams, ← unraw_paramNames h]
    simp
  constructor
  case sound =>
    intro hnot p hp hother
    exact hnot ((allows_ofMetric h rt).2 (.inl (hcase.1 ⟨p, hp, hother⟩)))
  case needed =>
    intro hallows
    exact ((allows_ofMetric h rt).1 hallows).imp_left hcase.2

/-- **The allowance stands where the compiler asks for it.** Every declaration of a set that
compiles has an accessor among the items of its namespace, and the parameters read back from its
tokens stand for those that the labels become. If the accessor does not allow another case, none of
them has a capital or two underscores in a row between the underscores at its ends. -/
theorem compiled_params_case {policy : BucketPolicy} {ds : List Declaration} {fs : List Facade}
    (hcompile : compile policy ds = .ok fs) (crateName : String) :
    ∀ d ∈ ds, ∃ f ∈ fs, f.scope = d.scope ∧
      (Accessor.ofMetric d.resolve).tokens (written crateName) <:+:
        (FacadeItems.ofFacade f).tokens (written crateName) ∧
      ∃ m, readMethod ((Accessor.ofMetric d.resolve).tokens (written crateName)) = some m ∧
        m.params.map unraw = paramsOf (d.labels.map canonicalize) ∧
        AllowsCase (d.labels.map canonicalize)
          ((Accessor.ofMetric d.resolve).tokens (written crateName)) m := by
  obtain ⟨rfl, hnameable, -⟩ := compile_ok hcompile
  intro d hd
  obtain ⟨f, hf, hscope, hmetric⟩ := Live.exists_facade_of_mem hd
  have hfit : LabelsFit d.resolve.labels := hnameable.labels d hd
  have hparams : ∀ p ∈ (Accessor.ofMetric d.resolve).params, Identifier p := by
    rw [params_accessor]
    exact (paramNames_fit hfit).1
  refine ⟨f, hf, hscope, ?_, (Accessor.ofMetric d.resolve).toMethod, ?_, ?_, ?_⟩
  · exact FacadeItems.accessor_infix _ (List.mem_map_of_mem hmetric)
  · exact readMethod_tokens hparams _
  · rw [Accessor.toMethod, params_accessor]
    exact unraw_paramNames hfit
  · exact allowsCase_ofMetric hfit _

/-- Labels that need no allowance, one that does, and one for which it is of no use. -/
def ballotsSample : List Declaration :=
  [⟨"polls", "Ballots", .counter, none, "", ["_", "self", "_booth", "post_code2"], []⟩,
   ⟨"polls", "Queues", .gauge, none, "", ["pollingPlace"], []⟩,
   ⟨"polls", "Clerks", .gauge, none, "", ["type_"], []⟩]

theorem ballotsSample_case :
    compile .strict ballotsSample = .ok (facades ballotsSample) ∧
      ∀ d ∈ ballotsSample, ∃ m,
        readMethod ((Accessor.ofMetric d.resolve).tokens (written defaultCrate)) = some m ∧
        m.params.map unraw = paramsOf (d.labels.map canonicalize) ∧
        AllowsCase (d.labels.map canonicalize)
          ((Accessor.ofMetric d.resolve).tokens (written defaultCrate)) m := by
  have hcompile : compile .strict ballotsSample = .ok (facades ballotsSample) :=
    compile_eq_ok_iff.2 ⟨by decide +kernel, rfl⟩
  refine ⟨hcompile, fun d hd => ?_⟩
  obtain ⟨f, -, -, -, hread⟩ := compiled_params_case hcompile defaultCrate d hd
  exact hread

end MetricFacade.Rust
