import Mathlib.Data.List.TakeWhile
import MetricFacade.Check.Spelling

/-!
# The shapes of names, labels and identifiers

The recognisers scan; here is what they recognise, written as the shape of the text.

Results:

* `isName_iff`, `isWord_iff`, `isLabel_iff`, `isIdentifier_iff`: each recogniser accepts
  exactly the texts of its shape.
* `IdentifierShape.word`: an identifier is a word, and not the lone `_`.
-/
namespace MetricFacade.Check

/-- `[A-Za-z0-9_]+` -/
def NameShape (s : String) : Prop :=
  s ≠ "" ∧ ∀ c ∈ s.toList, isWordChar c

/-- `[A-Za-z_][A-Za-z0-9_]*` -/
def WordShape (s : String) : Prop :=
  ∃ c rest, s.toList = c :: rest ∧ (c.isAlpha ∨ c = '_') ∧ ∀ d ∈ rest, isWordChar d

/-- A word that does not start with `__`. -/
def LabelShape (s : String) : Prop :=
  WordShape s ∧ ¬ ['_', '_'] <+: s.toList

/-- `_*[A-Za-z][A-Za-z0-9_]*` -/
def IdentifierShape (s : String) : Prop :=
  ∃ lead c rest, s.toList = lead ++ c :: rest ∧ (∀ d ∈ lead, d = '_') ∧ c.isAlpha ∧
    ∀ d ∈ rest, isWordChar d

theorem isWordChar_iff {c : Char} : isWordChar c ↔ c.isAlphanum ∨ c = '_' := by
  simp [isWordChar]

theorem isWordChar_of_isAlpha {c : Char} (h : c.isAlpha) : isWordChar c := by
  simp [isWordChar, Char.isAlphanum, h]

/-! ## The recognisers -/

theorem isName_iff {s : String} : isName s ↔ NameShape s := by
  simp [isName, NameShape]

theorem isWord_iff {s : String} : isWord s ↔ WordShape s := by
  unfold isWord
  constructor
  · intro h
    split at h
    · cases h
    · next c rest hs =>
      rw [Bool.and_eq_true, List.all_eq_true] at h
      exact ⟨c, rest, hs, by simpa using h.1, h.2⟩
  · rintro ⟨c, rest, hs, hc, hrest⟩
    rw [hs]
    simp only [Bool.and_eq_true, Bool.or_eq_true, decide_eq_true_eq, List.all_eq_true]
    exact ⟨hc, hrest⟩

theorem isLabel_iff {s : String} : isLabel s ↔ LabelShape s := by
  have htwo : s.toList.take 2 = ['_', '_'] ↔ ['_', '_'] <+: s.toList := by
    rw [List.prefix_iff_eq_take, eq_comm]
    rfl
  simp [isLabel, LabelShape, isWord_iff, htwo]

theorem isIdentifier_iff {s : String} : isIdentifier s ↔ IdentifierShape s := by
  unfold isIdentifier
  constructor
  · intro h
    split at h
    · cases h
    · next c rest hdrop =>
      rw [Bool.and_eq_true, List.all_eq_true] at h
      refine ⟨s.toList.takeWhile (· = '_'), c, rest, ?_, ?_, h.1, h.2⟩
      · rw [← hdrop, List.takeWhile_append_dropWhile]
      · intro d hd
        simpa using List.mem_takeWhile_imp hd
  · rintro ⟨lead, c, rest, hs, hlead, hc, hrest⟩
    have hfirst : c ≠ '_' := by
      rintro rfl
      exact absurd hc (by decide)
    have hdrop : s.toList.dropWhile (· = '_') = c :: rest := by
      rw [hs, List.dropWhile_append_of_pos (by simpa using hlead)]
      simp [hfirst]
    rw [hdrop]
    simp only [Bool.and_eq_true, List.all_eq_true]
    exact ⟨hc, hrest⟩

/-! ## What the shapes give -/

theorem IdentifierShape.word {s : String} (h : IdentifierShape s) : WordShape s := by
  obtain ⟨lead, c, rest, hs, hlead, hc, hrest⟩ := h
  cases lead with
  | nil => exact ⟨c, rest, hs, .inl hc, hrest⟩
  | cons d lead =>
    refine ⟨d, lead ++ c :: rest, hs, .inr (hlead d (by simp)), ?_⟩
    intro e he
    rcases List.mem_append.1 he with he | he
    · rw [hlead e (List.mem_cons_of_mem d he)]
      decide
    · rcases List.mem_cons.1 he with rfl | he
      · exact isWordChar_of_isAlpha hc
      · exact hrest e he

theorem IdentifierShape.ne_underscore {s : String} (h : IdentifierShape s) : s ≠ "_" := by
  rintro rfl
  exact absurd (isIdentifier_iff.2 h) (by decide)

theorem WordShape.chars {s : String} (h : WordShape s) : ∀ c ∈ s.toList, isWordChar c := by
  obtain ⟨c, rest, hs, hc, hrest⟩ := h
  rw [hs]
  intro d hd
  rcases List.mem_cons.1 hd with rfl | hd
  · rcases hc with hc | rfl
    · exact isWordChar_of_isAlpha hc
    · decide
  · exact hrest d hd

theorem WordShape.ne_empty {s : String} (h : WordShape s) : s ≠ "" := by
  rintro rfl
  obtain ⟨c, rest, hs, -⟩ := h
  cases hs

end MetricFacade.Check
