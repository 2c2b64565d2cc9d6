import MetricFacade.Proofs.Rust.Ident
import MetricFacade.Rust.FacadeTokens

/-!
# Words of generated items

A name in generated code is an identifier and a number ends in its type, so a mark such as `&` or a
keyword such as `static` stands only where it is written out. What is known to hold no such word can
be passed over when the items are read.

Results:

* `identifier_ne_mark`, `identifier_ne_keyword`: what an identifier is not.
* `notMem_options`: words that the options of a metric do not hold.
-/
namespace MetricFacade.Rust

open Check Ident Token

/-! ## What an identifier is not -/

/-- A mark has a character that no identifier has. -/
def isMark (mark : String) : Bool :=
  mark.toList.any fun c => !isWordChar c && c != '#'

theorem identifier_ne_mark {w mark : String} (h : Identifier w) (hmark : isMark mark) :
    w ≠ mark := by
  obtain ⟨bare, hbare, rfl⟩ := h
  rintro rfl
  obtain ⟨c, hc, hforeign⟩ := List.any_eq_true.1 hmark
  rw [Bool.and_eq_true, Bool.not_eq_true', bne_iff_ne] at hforeign
  have hword : ¬ isWordChar c := by simp [hforeign.1]
  split at hc
  · rw [String.toList_append, List.mem_append] at hc
    rcases hc with hc | hc
    · have hraw : c = 'r' ∨ c = '#' := by simpa using hc
      rcases hraw with rfl | rfl
      · exact hword (by decide)
      · exact hforeign.2 rfl
    · exact hword (hbare.1.chars c hc)
  · exact hword (hbare.1.chars c hc)

/-- A keyword stands in source text with a raw marker if it is a name. -/
theorem identifier_ne_keyword {w k : String} (h : Identifier w) (hk : k ∈ keywords) : k ≠ w := by
  obtain ⟨bare, -, rfl⟩ := h
  have hplain : ∀ k ∈ keywords, '#' ∉ k.toList := by decide
  rintro rfl
  split at hk
  · exact hplain _ hk (by simp)
  · next hbare => exact hbare hk

/-- A word that is neither a name nor a number of generated code. -/
structure Foreign (mark : String) : Prop where
  name : ∀ w, Identifier w → mark ≠ w
  double : ∀ s, mark ≠ s ++ "f64"
  count : ∀ s, mark ≠ s ++ "usize"

theorem ne_append {mark suffix : String} (hne : suffix.toList ≠ [])
    (h : mark.toList.getLast? ≠ suffix.toList.getLast?) (s : String) : mark ≠ s ++ suffix := by
  rintro rfl
  rw [String.toList_append, List.getLast?_append_of_ne_nil _ hne] at h
  exact h rfl

theorem foreign_of_isMark {mark : String} (h : isMark mark)
    (hlast : mark.toList.getLast? ≠ some '4' ∧ mark.toList.getLast? ≠ some 'e') : Foreign mark where
  name := fun _ hw => (identifier_ne_mark hw h).symm
  double := ne_append (by decide) hlast.1
  count := ne_append (by decide) hlast.2

theorem foreign_reference : Foreign "&" := foreign_of_isMark (by decide) (by decide)

theorem foreign_comma : Foreign "," := foreign_of_isMark (by decide) (by decide)

theorem foreign_static : Foreign "static" where
  name := fun _ hw => identifier_ne_keyword hw (by decide)
  double := ne_append (by decide) (by decide)
  count := ne_append (by decide) (by decide)

/-! ## Lists -/

@[simp] theorem code_mem_codes {spelling : String} {spellings : List String} :
    code spelling ∈ codes spellings ↔ spelling ∈ spellings := by
  simp [codes]

theorem commaSeparated_cons_cons (item next : List Token) (items : List (List Token)) :
    commaSeparated (item :: next :: items) =
      item ++ code "," :: commaSeparated (next :: items) := rfl

theorem notMem_commaSeparated {t : Token} (hcomma : t ≠ code ",") {items : List (List Token)}
    (h : ∀ item ∈ items, t ∉ item) : t ∉ commaSeparated items := by
  induction items with
  | nil => exact List.not_mem_nil
  | cons item items ih =>
    have hitem := h item List.mem_cons_self
    cases items with
    | nil => exact hitem
    | cons next items =>
      have hnext := ih fun i hi => h i (List.mem_cons_of_mem item hi)
      rw [commaSeparated_cons_cons, List.mem_append, List.mem_cons, not_or, not_or]
      exact ⟨hitem, hcomma, hnext⟩

theorem notMem_commaTerminated {t : Token} (hcomma : t ≠ code ",") {items : List (List Token)}
    (h : ∀ item ∈ items, t ∉ item) : t ∉ commaTerminated items := by
  simpa [commaTerminated, hcomma] using h

/-! ## Options of a metric -/

theorem notMem_crateItem {mark rt : String} (hmark : Foreign mark) (hrt : Identifier rt)
    (hsep : mark ≠ "::") {path : List String} (hpath : mark ∉ path) :
    code mark ∉ crateItem rt path := by
  simp [crateItem, hmark.name rt hrt, hsep, hpath]

theorem notMem_double {mark : String} (hmark : Foreign mark) (hsign : mark ≠ "-") (x : Float) :
    code mark ∉ double x := by
  have hnumber := hmark.double (Number.plain x.abs)
  unfold double
  split <;> simp [hnumber, hsign]

/-- The fixed words of the options of a metric. -/
def optionWords : List String :=
  ["::", "prometheus", "Opts", "HistogramOpts", "new", "buckets", "exponential_buckets",
   "linear_buckets", "vec", "!", "[", "]", "(", ")", ",", ".", "?", "-"]

section Options

variable {mark rt : String} (hmark : Foreign mark) (hwords : mark ∉ optionWords)
  (hrt : Identifier rt)

include hmark hwords hrt

theorem notMem_clientItem {path : List String} (hpath : mark ∉ path) :
    code mark ∉ clientItem rt path := by
  simp only [optionWords, List.mem_cons, not_or] at hwords
  exact notMem_crateItem hmark hrt hwords.1 (by simp [hwords, hpath])

theorem notMem_formula {function : String} (hfunction : mark ≠ function) (first second : Float)
    (count : Nat) : code mark ∉ BucketCall.tokens.formula rt function first second count := by
  have hname : code mark ∉ clientItem rt [function] :=
    notMem_clientItem hmark hwords hrt (by simp [hfunction])
  simp only [optionWords, List.mem_cons, not_or] at hwords
  have hargs : code mark ∉
      commaSeparated [double first, double second, [code (toString count ++ "usize")]] := by
    refine notMem_commaSeparated (by simp [hwords]) ?_
    have hcount := hmark.count (toString count)
    have hdouble := notMem_double hmark (by simp [hwords])
    intro item hitem
    simp only [List.mem_cons, List.not_mem_nil, or_false] at hitem
    rcases hitem with rfl | rfl | rfl
    · exact hdouble first
    · exact hdouble second
    · exact fun h => hcount (Token.code.inj (List.mem_singleton.1 h))
  rw [BucketCall.tokens.formula, List.mem_append, List.mem_append, List.mem_cons]
  simp only [hname, hargs]
  simp [hwords]

theorem notMem_buckets (call : BucketCall) : code mark ∉ call.tokens rt := by
  have hformula := @notMem_formula _ _ hmark hwords hrt
  simp only [optionWords, List.mem_cons, not_or] at hwords
  cases call with
  | exponential start factor count => exact hformula (by simp [hwords]) start factor count
  | linear start width count => exact hformula (by simp [hwords]) start width count
  | bounds values =>
    have hvalues : code mark ∉ commaSeparated (values.map double) := by
      refine notMem_commaSeparated (by simp [hwords]) ?_
      rw [List.forall_mem_map]
      exact fun x _ => notMem_double hmark (by simp [hwords]) x
    simp [BucketCall.tokens, hvalues, hwords]

/-- What a constructor passes before the labels is made of names, numbers, texts and fixed words. -/
theorem notMem_options (c : Constructor) : code mark ∉ c.options rt := by
  have hbuckets := notMem_buckets hmark hwords hrt
  have hclient := @notMem_clientItem _ _ hmark hwords hrt
  simp only [optionWords, List.mem_cons, not_or] at hwords
  have hargs : code mark ∉ commaSeparated [[text c.name], [text c.help]] :=
    notMem_commaSeparated (by simp [hwords]) (by simp)
  have hname : code mark ∉
      clientItem rt [if c.forHistogram then "HistogramOpts" else "Opts", "new"] := by
    refine hclient ?_
    split <;> simp [hwords]
  have hcall : code mark ∉ clientItem rt [if c.forHistogram then "HistogramOpts" else "Opts", "new"]
      ++ code "(" :: commaSeparated [[text c.name], [text c.help]] ++ [code ")"] := by
    simp [hname, hargs, hwords]
  unfold Constructor.options
  cases c.buckets with
  | none => exact hcall
  | some buckets =>
    have hlast : code mark ∉ codes [".", "buckets", "("] := by simp [hwords]
    simp only [List.mem_append, not_or] at hcall ⊢
    exact ⟨⟨⟨hcall, hlast⟩, hbuckets buckets⟩, by simp [hwords]⟩

end Options

end MetricFacade.Rust
