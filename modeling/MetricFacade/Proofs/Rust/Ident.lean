import MetricFacade.Proofs.Check.PerMetric
import MetricFacade.Proofs.Text.SnakeName
import MetricFacade.Rust.Ident

/-!
# Identifiers are well formed

What is written for a source identifier, a segment or a label that passed the checks can
stand in source text as an identifier, and no two names are written the same way.

Results:

* `bare_escaped`: escaping leaves no path keyword.
* `written_identifier`: with its raw marker the escaped name is an identifier.
* `written_injective`: names written the same way are escaped the same way.
* `snakeName_snakeCase`: snake case of an identifier, with no mark too many.
* `bare_member`, `bare_param`: members and parameters of what passed the checks.
-/
namespace MetricFacade.Rust.Ident

open Check MetricFacade.Metric

/-- An identifier without a raw marker: ASCII letters, digits and `_`, no digit first, not the
lone `_`, and none of the words that are no identifier in any form. -/
def Bare (s : String) : Prop :=
  WordShape s ∧ s ≠ "_" ∧ s ∉ pathKeywords

/-- An identifier as it stands in source text: with the raw marker exactly where the word is a
keyword. -/
def Identifier (w : String) : Prop :=
  ∃ bare, Bare bare ∧ w = if bare ∈ keywords then "r#" ++ bare else bare

/-! ## Escaping -/

theorem wordShape_append {s t : String} (h : WordShape s) (ht : ∀ c ∈ t.toList, isWordChar c) :
    WordShape (s ++ t) := by
  obtain ⟨c, rest, hs, hc, hrest⟩ := h
  refine ⟨c, rest ++ t.toList, by rw [String.toList_append, hs, List.cons_append], hc, ?_⟩
  intro d hd
  exact (List.mem_append.1 hd).elim (hrest d) (ht d)

theorem bare_escaped {s : String} (h : WordShape s) (hs : s ≠ "_") : Bare (escaped s) := by
  unfold escaped
  split
  · next hpath =>
    have hword : WordShape (s ++ "_") := wordShape_append h (List.all_eq_true.1 (by decide))
    have hothers : ∀ p ∈ pathKeywords, p ++ "_" ≠ "_" ∧ p ++ "_" ∉ pathKeywords := by decide
    exact ⟨hword, hothers s hpath⟩
  · next hpath => exact ⟨h, hs, hpath⟩

theorem escaped_of_bare {s : String} (h : Bare s) : escaped s = s :=
  if_neg h.2.2

theorem written_eq {s : String} :
    written s = if escaped s ∈ keywords then "r#" ++ escaped s else escaped s := by
  simp [written, isKeyword]

theorem written_identifier {s : String} (h : Bare (escaped s)) : Identifier (written s) :=
  ⟨escaped s, h, written_eq⟩

theorem hash_not_mem {s : String} (h : Bare s) : '#' ∉ s.toList := by
  intro hhash
  exact absurd (h.1.chars '#' hhash) (by decide)

theorem written_injective {s t : String} (hs : Bare (escaped s)) (ht : Bare (escaped t))
    (h : written s = written t) : escaped s = escaped t := by
  have hraw : ∀ {a b : String}, Bare b → "r#" ++ a ≠ b := by
    rintro a b hb rfl
    exact hash_not_mem hb (by simp)
  rw [written_eq, written_eq] at h
  split at h
  · split at h
    · exact (String.append_right_inj "r#").1 h
    · exact absurd h (hraw ht)
  · split at h
    · exact absurd h.symm (hraw hs)
    · exact h

/-! ## Members -/

theorem identifierShape_append {s t : String} (h : IdentifierShape s)
    (ht : ∀ c ∈ t.toList, isWordChar c) : IdentifierShape (s ++ t) := by
  obtain ⟨lead, c, rest, hs, hlead, hc, hrest⟩ := h
  refine ⟨lead, c, rest ++ t.toList, by simp [hs], hlead, hc, ?_⟩
  intro d hd
  exact (List.mem_append.1 hd).elim (hrest d) (ht d)

theorem snakeName_snakeCase {s : String} (h : IdentifierShape s) :
    Text.SnakeName (Text.snakeCase s) := by
  obtain ⟨lead, c, rest, hs, hlead, hc, hrest⟩ := h
  obtain ⟨a, first, ws, hsnake, ha, hwords⟩ :=
    Text.snakeChars_shape hlead hc fun d hd => isWordChar_iff.1 (hrest d hd)
  rw [Text.snakeCase, hs, hsnake]
  exact Text.snakeName_joined ha hwords

/-- A name in snake case starts with a letter, so it is no lone `_`. -/
theorem bare_of_snakeName {s : String} (h : Text.SnakeName s) : Bare (escaped s) := by
  obtain ⟨c, rest, hs, hc⟩ := h.starts
  refine bare_escaped ⟨c, rest, hs, .inl (Text.isAlpha_iff.2 (.inr hc)), ?_⟩ ?_
  · intro d hd
    rw [isWordChar_iff, Text.isAlphanum_iff]
    rcases h.chars d (hs ▸ List.mem_cons_of_mem c hd) with hlower | hdigit | hmark
    · exact .inl (.inr (.inl hlower))
    · exact .inl (.inr (.inr hdigit))
    · exact .inr hmark
  · rintro rfl
    exact h.ends rfl

theorem bare_member {s : String} (h : IdentifierShape s) : Bare (escaped (Text.snakeCase s)) :=
  bare_of_snakeName (snakeName_snakeCase h)

theorem kind_name_chars (k : Kind) : ∀ c ∈ k.name.toList, isWordChar c := by
  rw [← List.all_eq_true]
  cases k <;> decide

/-! ## Parameters -/

theorem digits_chars (n : Nat) : ∀ c ∈ (toString n).toList, isWordChar c := by
  intro c hc
  rw [Nat.toString_eq_ofList_toDigits, String.toList_ofList] at hc
  have hdigit := Nat.isDigit_of_mem_toDigits (by decide) (by decide) hc
  simp [isWordChar, Char.isAlphanum, hdigit]

/-- The parameter for a label is escaped already, so building it escapes nothing anew. -/
theorem bare_param {label : String} (h : LabelShape label) (i : Nat) : Bare (param label i) := by
  unfold param
  split
  · have hword : WordShape ("label_" ++ toString i) :=
      wordShape_append (isWord_iff.1 (by decide)) (digits_chars i)
    have hchars : ("label_" ++ toString i).toList =
        ['l', 'a', 'b', 'e', 'l', '_'] ++ (toString i).toList := by
      rw [String.toList_append]; rfl
    refine ⟨hword, ?_, ?_⟩
    · intro hlone
      have := hchars.symm.trans (congrArg String.toList hlone)
      cases this
    · intro hpath
      have hstart : ∀ p ∈ pathKeywords, p.toList.head? ≠ some 'l' := by decide
      exact hstart _ hpath (by rw [hchars]; rfl)
  · next hlabel => exact bare_escaped h.1 hlabel

end MetricFacade.Rust.Ident
