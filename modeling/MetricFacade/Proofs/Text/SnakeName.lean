import Mathlib.Data.List.Infix
import MetricFacade.Proofs.Text.SnakeCase

/-!
# Names in snake case

Words of small letters and digits that are joined with `_` have no marks but those that join them.
So no two marks stand side by side, and none stands at an end.

Results:

* `not_double_infix_joined`: joining puts no two marks side by side.
* `intercalate_concat`: the last word stands at the end, whatever is joined before it.
* `snakeName_joined`: joined words are a name in snake case if a letter comes first.
* `snakeChars_eq_self`: what has no capital and no other marks is left as it is.
-/
namespace MetricFacade.Text

/-- Small letters, digits and single underscores, a letter first and no underscore last. -/
structure SnakeName (s : String) : Prop where
  /-- So it is not empty. -/
  starts : ∃ c rest, s.toList = c :: rest ∧ c.isLower
  chars : ∀ c ∈ s.toList, c.isLower ∨ c.isDigit ∨ c = '_'
  single : ¬ ['_', '_'] <:+: s.toList
  ends : s.toList.getLast? ≠ some '_'

/-! ## Marks side by side -/

theorem double_infix_cons {c : Char} {rest : List Char} :
    ['_', '_'] <:+: c :: rest ↔ c = '_' ∧ rest.head? = some '_' ∨ ['_', '_'] <:+: rest := by
  rw [List.infix_cons_iff]
  refine or_congr_left ?_
  cases rest with
  | nil => simp
  | cons d rest => simp [List.cons_prefix_cons, eq_comm]

theorem double_infix_append {w : List Char} (h : '_' ∉ w) (rest : List Char) :
    ['_', '_'] <:+: w ++ rest ↔ ['_', '_'] <:+: rest := by
  induction w with
  | nil => rfl
  | cons c w ih =>
    rw [List.mem_cons, not_or] at h
    rw [List.cons_append, double_infix_cons, ih h.2]
    simp [Ne.symm h.1]

theorem not_double_infix_of_notMem {w : List Char} (h : '_' ∉ w) : ¬ ['_', '_'] <:+: w := by
  intro hdouble
  exact h (hdouble.subset (by simp))

/-! ## Joined words -/

theorem SmallWord.ne_mark {w : List Char} (h : SmallWord w) : ∀ c ∈ w, c ≠ '_' := by
  rintro c hc rfl
  rcases h.2 '_' hc with hlower | hdigit
  · cases hlower
  · cases hdigit

theorem SmallWord.mark_notMem {w : List Char} (h : SmallWord w) : '_' ∉ w :=
  fun hmem => h.ne_mark '_' hmem rfl

theorem not_double_infix_joined {ws : List (List Char)} (h : ∀ w ∈ ws, SmallWord w) :
    ¬ ['_', '_'] <:+: ['_'].intercalate ws := by
  induction ws with
  | nil => exact not_double_infix_of_notMem (by simp)
  | cons w ws ih =>
    obtain ⟨hw, hws⟩ := List.forall_mem_cons.1 h
    match ws with
    | [] =>
      rw [List.intercalate_singleton]
      exact not_double_infix_of_notMem hw.mark_notMem
    | [] :: _ => exact absurd rfl (hws [] List.mem_cons_self).1
    | (c :: v) :: ws =>
      have hc : c ≠ '_' := (hws (c :: v) List.mem_cons_self).ne_mark c List.mem_cons_self
      rw [List.intercalate_cons_cons, List.append_assoc, double_infix_append hw.mark_notMem,
        List.singleton_append, double_infix_cons, List.intercalate_cons_cons_left]
      rintro (⟨-, hhead⟩ | hdouble)
      · exact hc (Option.some.inj hhead)
      · exact ih hws (List.intercalate_cons_cons_left ▸ hdouble)

theorem intercalate_concat (sep : List Char) (ws : List (List Char)) (w : List Char) :
    sep.intercalate (ws ++ [w]) = ws.flatMap (· ++ sep) ++ w := by
  induction ws with
  | nil => exact List.intercalate_singleton
  | cons v ws ih =>
    rw [List.cons_append, List.intercalate_cons_of_ne_nil (by simp), ih, List.flatMap_cons,
      List.append_assoc _ _ w]

/-- A joined text ends as its last word does. -/
theorem getLast?_intercalate_concat {w : List Char} (h : w ≠ []) (sep : List Char)
    (ws : List (List Char)) : (sep.intercalate (ws ++ [w])).getLast? = w.getLast? := by
  rw [intercalate_concat, List.getLast?_append_of_ne_nil _ h]

theorem getLast?_joined_ne {ws : List (List Char)} (h : ∀ w ∈ ws, SmallWord w) :
    (['_'].intercalate ws).getLast? ≠ some '_' := by
  rcases List.eq_nil_or_concat ws with rfl | ⟨init, w, rfl⟩
  · simp
  · have hw : SmallWord w := h w (by simp)
    rw [List.concat_eq_append, getLast?_intercalate_concat hw.1]
    exact fun hlast => hw.mark_notMem (List.mem_of_mem_getLast? hlast)

theorem chars_joined {ws : List (List Char)} (h : ∀ w ∈ ws, SmallWord w) :
    ∀ c ∈ ['_'].intercalate ws, c.isLower ∨ c.isDigit ∨ c = '_' := by
  intro c hc
  rcases mem_of_mem_intercalate hc with hmark | ⟨w, hw, hin⟩
  · exact .inr (.inr (List.mem_singleton.1 hmark))
  · exact ((h w hw).2 c hin).imp_right .inl

theorem snakeName_joined {a : Char} {first : List Char} {ws : List (List Char)} (ha : a.isLower)
    (h : ∀ w ∈ (a :: first) :: ws, SmallWord w) :
    SnakeName (String.ofList (['_'].intercalate ((a :: first) :: ws))) where
  starts := ⟨a, ['_'].intercalate (first :: ws),
    by rw [String.toList_ofList, List.intercalate_cons_cons_left], ha⟩
  chars := by
    rw [String.toList_ofList]
    exact chars_joined h
  single := by
    rw [String.toList_ofList]
    exact not_double_infix_joined h
  ends := by
    rw [String.toList_ofList]
    exact getLast?_joined_ne h

/-! ## What is in snake case already -/

/-- Joining the pieces undoes cutting at the marks. -/
theorem intercalate_pieces {cs : List Char} (h : ∀ c ∈ cs, c.isAlphanum ∨ c = '_') :
    ['_'].intercalate (pieces cs) = cs := by
  induction cs with
  | nil => rfl
  | cons c cs ih =>
    obtain ⟨hc, hcs⟩ := List.forall_mem_cons.1 h
    rcases hc with hal | rfl
    · obtain ⟨p, ps, hpieces⟩ : ∃ p ps, pieces cs = p :: ps :=
        List.exists_cons_of_ne_nil (pieces_ne_nil cs)
      rw [pieces_cons (isAlphanumeric_of_isAlphanum hal) hpieces, List.intercalate_cons_cons_left,
        ← hpieces, ih hcs]
    · rw [pieces_separator (by decide), List.intercalate_cons_of_ne_nil (pieces_ne_nil cs), ih hcs]
      rfl

/-- Behind the first piece there is an empty one only between two marks or behind the last. -/
theorem nil_notMem_tail_pieces {cs : List Char} (h : ∀ c ∈ cs, c.isAlphanum ∨ c = '_')
    (hsingle : ¬ ['_', '_'] <:+: cs) (hends : cs.getLast? ≠ some '_') :
    [] ∉ (pieces cs).tail := by
  induction cs with
  | nil => simp [pieces]
  | cons c cs ih =>
    obtain ⟨hc, hcs⟩ := List.forall_mem_cons.1 h
    rw [double_infix_cons, not_or] at hsingle
    have hlast : cs.getLast? ≠ some '_' := by
      intro hmark
      refine hends ?_
      rw [List.getLast?_cons, hmark]
      rfl
    have hrest := ih hcs hsingle.2 hlast
    rcases hc with hal | rfl
    · obtain ⟨p, ps, hpieces⟩ : ∃ p ps, pieces cs = p :: ps :=
        List.exists_cons_of_ne_nil (pieces_ne_nil cs)
      rw [pieces_cons (isAlphanumeric_of_isAlphanum hal) hpieces]
      rwa [hpieces] at hrest
    · rw [pieces_separator (by decide), List.tail_cons]
      cases cs with
      | nil => exact absurd rfl hends
      | cons d rest =>
        have hd : d.isAlphanum := by
          refine (hcs d List.mem_cons_self).resolve_right ?_
          rintro rfl
          exact hsingle.1 ⟨rfl, rfl⟩
        obtain ⟨p, ps, hpieces⟩ := pieces_start (isAlphanumeric_of_isAlphanum hd) rest
        rw [hpieces] at hrest ⊢
        simpa using hrest

theorem isUppercase_of_small {c : Char} (h : c.isLower ∨ c.isDigit) : isUppercase c = false := by
  rcases h with hlower | hdigit
  · exact isUppercase_of_isLower hlower
  · exact (caseless_of_isDigit hdigit).2

/-- With no empty piece behind the first, every piece is a word. -/
theorem smallWord_of_mem_pieces {c : Char} {rest : List Char} (hc : c.isAlphanum)
    (hchars : ∀ d ∈ c :: rest, d.isLower ∨ d.isDigit ∨ d = '_')
    (htail : [] ∉ (pieces (c :: rest)).tail) :
    ∀ w ∈ pieces (c :: rest), SmallWord w := by
  intro w hw
  constructor
  · rintro rfl
    obtain ⟨p, ps, hpieces⟩ := pieces_start (isAlphanumeric_of_isAlphanum hc) rest
    rw [hpieces] at htail hw
    rcases List.mem_cons.1 hw with hfirst | hmem
    · cases hfirst
    · exact htail hmem
  · intro d hd
    obtain ⟨hin, hpart⟩ := mem_pieces hw d hd
    rcases hchars d hin with hlower | hdigit | rfl
    · exact .inl hlower
    · exact .inr hdigit
    · exact absurd hpart (by decide)

theorem words_of_small_pieces {cs : List Char} (h : ∀ w ∈ pieces cs, SmallWord w) :
    words cs = pieces cs := by
  calc words cs
      = (pieces cs).flatMap fun w => [w] := List.flatMap_congr fun w hw =>
        wordsFrom_of_no_capital .boundary [] (h w hw).1 fun c hc =>
          isUppercase_of_small ((h w hw).2 c hc)
    _ = pieces cs := List.flatMap_singleton' _

theorem map_lowerWord_small {ws : List (List Char)} (h : ∀ w ∈ ws, SmallWord w) :
    ws.map lowerWord = ws := by
  calc ws.map lowerWord
      = ws.map id := List.map_congr_left fun w hw => lowerWord_small (h w hw).2
    _ = ws := List.map_id ws

/-- **Snake case is left as it is.** Small letters, digits and single underscores, none of them at
an end, are written as they are. -/
theorem snakeChars_eq_self {cs : List Char} (hchars : ∀ c ∈ cs, c.isLower ∨ c.isDigit ∨ c = '_')
    (hsingle : ¬ ['_', '_'] <:+: cs) (hstarts : cs.head? ≠ some '_')
    (hends : cs.getLast? ≠ some '_') : snakeChars cs = cs := by
  cases cs with
  | nil => rfl
  | cons c rest =>
    have hal : ∀ d ∈ c :: rest, d.isAlphanum ∨ d = '_' := by
      intro d hd
      rw [isAlphanum_iff]
      rcases hchars d hd with hlower | hdigit | hmark
      · exact .inl (.inr (.inl hlower))
      · exact .inl (.inr (.inr hdigit))
      · exact .inr hmark
    have hc : c.isAlphanum := (hal c List.mem_cons_self).resolve_right (by simpa using hstarts)
    have hpieces := smallWord_of_mem_pieces hc hchars (nil_notMem_tail_pieces hal hsingle hends)
    rw [snakeChars, words_of_small_pieces hpieces, map_lowerWord_small hpieces,
      intercalate_pieces hal]

end MetricFacade.Text
