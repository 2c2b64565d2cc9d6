import MetricFacade.Proofs.Text.SnakeName

/-!
# A capital word behind a text

Where a text is followed by a word like `Counter`, the cut before the word depends on what the text
ends in. A small letter is cut off from the capital; so is a capital, because a small letter follows
the next one; digits keep to the letter before them and are cut off with it. Only digits that stand
alone leave no mode behind, and the word grows on to them. A name in snake case still tells where
the text ended: `_` stands before the word or a digit does.

Results:

* `wordsFrom_append_capital`: how the words of a piece change, by induction on how it is cut.
* `words_append_capital`: how the words of a text change.
* `snakeChars_append_capital`: what is written behind the name of the text.
* `snakeChars_append_injective`: the name of the text is read off again.
-/
namespace MetricFacade.Text

/-- A capital, and small letters behind it. -/
def CapitalWord (w : List Char) : Prop :=
  ∃ capital next rest, w = capital :: next :: rest ∧ capital.isUpper ∧ ∀ c ∈ next :: rest, c.isLower

/-! ## Modes -/

namespace CaseMode

theorem next_lower (mode : CaseMode) {c : Char} (h : c.isLower) : mode.next c = .lower := by
  rw [next, if_pos (isLowercase_of_isLower h)]

theorem next_upper (mode : CaseMode) {c : Char} (h : c.isUpper) : mode.next c = .upper := by
  rw [next, isLowercase_of_isUpper h, if_neg Bool.false_ne_true,
    if_pos (isUppercase_of_isUpper h)]

theorem next_digit (mode : CaseMode) {c : Char} (h : c.isDigit) : mode.next c = mode := by
  obtain ⟨hlower, hupper⟩ := caseless_of_isDigit h
  rw [next, hlower, hupper, if_neg Bool.false_ne_true, if_neg Bool.false_ne_true]

end CaseMode

/-! ## What the mode tells -/

/-- What the mode knows of the word begun: in mode `boundary` it has no letter, unless it is the
capital that the piece was cut before, since a small letter follows it. -/
structure Tracks (mode : CaseMode) (word rest : List Char) : Prop where
  digits : mode = .boundary → (∀ c ∈ word, c.isDigit) ∨ ∃ next ∈ rest.head?, next.isLower
  letter : mode ≠ .boundary → ∃ c ∈ word, ¬ c.isDigit

namespace Tracks

theorem start (rest : List Char) : Tracks .boundary [] rest where
  digits := fun _ => .inl (by simp)
  letter := fun h => absurd rfl h

theorem cut {capital next : Char} (h : next.isLower) (rest : List Char) :
    Tracks .boundary [capital] (next :: rest) where
  digits := fun _ => .inr ⟨next, rfl, h⟩
  letter := fun h => absurd rfl h

/-- A letter sets the mode. -/
theorem of_letter {mode : CaseMode} (hmode : mode ≠ .boundary) {c : Char} (hc : c.isAlpha)
    (word rest : List Char) : Tracks mode (c :: word) rest where
  digits := fun h => absurd h hmode
  letter := fun _ => ⟨c, List.mem_cons_self, not_isDigit_of_isAlpha hc⟩

theorem next {mode : CaseMode} {c : Char} {word rest : List Char} (h : Tracks mode word (c :: rest))
    (hc : c.isAlphanum) : Tracks (mode.next c) (c :: word) rest := by
  rcases isAlphanum_iff.1 hc with hupper | hlower | hdigit
  · rw [mode.next_upper hupper]
    exact of_letter (by simp) (isAlpha_iff.2 (.inl hupper)) word rest
  · rw [mode.next_lower hlower]
    exact of_letter (by simp) (isAlpha_iff.2 (.inr hlower)) word rest
  · rw [mode.next_digit hdigit]
    constructor
    · intro hmode
      rcases h.digits hmode with hword | ⟨d, hd, hlower⟩
      · exact .inl (List.forall_mem_cons.2 ⟨hdigit, hword⟩)
      · cases hd
        exact absurd hdigit (not_isDigit_of_isAlpha (isAlpha_iff.2 (.inr hlower)))
    · intro hmode
      obtain ⟨d, hd, hnot⟩ := h.letter hmode
      exact ⟨d, List.mem_cons_of_mem c hd, hnot⟩

/-- At the end of a piece the mode tells whether the word begun has a letter. -/
theorem boundary_iff {mode : CaseMode} {word : List Char} (h : Tracks mode word []) :
    mode = .boundary ↔ ∀ c ∈ word, c.isDigit := by
  constructor
  · intro hmode
    exact (h.digits hmode).resolve_right (by simp)
  · intro hdigits
    by_contra hmode
    obtain ⟨c, hc, hnot⟩ := h.letter hmode
    exact hnot (hdigits c hc)

end Tracks

/-! ## Pieces -/

theorem wordsFrom_small (mode : CaseMode) (word : List Char) {cs : List Char} (hne : cs ≠ [])
    (h : ∀ c ∈ cs, c.isLower) : wordsFrom mode word cs = [word.reverse ++ cs] :=
  wordsFrom_of_no_capital mode word hne fun c hc => isUppercase_of_isLower (h c hc)

/-- A capital word grows on to what was begun without a letter. -/
theorem wordsFrom_capital_boundary {w : List Char} (h : CapitalWord w) (word : List Char) :
    wordsFrom .boundary word w = [word.reverse ++ w] := by
  obtain ⟨capital, next, rest, rfl, hcapital, hsmall⟩ := h
  rw [wordsFrom, CaseMode.next_upper _ hcapital, if_neg (by simp), if_neg (by simp),
    wordsFrom_small _ _ (List.cons_ne_nil next rest) hsmall]
  simp

/-- Behind a capital it is cut off. -/
theorem wordsFrom_capital_upper {w : List Char} (h : CapitalWord w) (word : List Char) :
    wordsFrom .upper word w = [word.reverse, w] := by
  obtain ⟨capital, next, rest, rfl, hcapital, hsmall⟩ := h
  have hnext : isLowercase next := isLowercase_of_isLower (hsmall next List.mem_cons_self)
  rw [wordsFrom, CaseMode.next_upper _ hcapital, if_neg (by simp),
    if_pos ⟨rfl, isUppercase_of_isUpper hcapital, hnext⟩,
    wordsFrom_small _ _ (List.cons_ne_nil next rest) hsmall]
  rfl

/-- The last character of a piece with a capital word behind it. -/
theorem wordsFrom_before_capital (mode : CaseMode) (word : List Char) (c : Char) {w : List Char}
    (h : CapitalWord w) :
    wordsFrom mode word (c :: w) =
      if mode.next c = .lower then (c :: word).reverse :: wordsFrom .boundary [] w
      else wordsFrom (mode.next c) (c :: word) w := by
  obtain ⟨capital, next, rest, rfl, hcapital, -⟩ := h
  rw [wordsFrom, isUppercase_of_isUpper hcapital, isLowercase_of_isUpper hcapital]
  simp

/-- What a capital word makes of the last word before it. -/
def grown (last w : List Char) : List (List Char) :=
  if last.all Char.isDigit then [last ++ w] else [last, w]

theorem wordsFrom_last {mode : CaseMode} {word : List Char} {c : Char}
    (htracks : Tracks mode word [c]) (hc : c.isAlphanum) {w : List Char} (h : CapitalWord w) :
    wordsFrom mode word (c :: w) = grown (c :: word).reverse w := by
  have hdigits : mode.next c = .boundary ↔ (c :: word).reverse.all Char.isDigit := by
    rw [(htracks.next hc).boundary_iff, List.all_eq_true]
    simp only [List.mem_reverse]
  rw [wordsFrom_before_capital mode word c h, grown]
  cases hmode : mode.next c with
  | boundary =>
    rw [if_neg (by simp), if_pos (hdigits.1 hmode), wordsFrom_capital_boundary h]
  | lower =>
    rw [if_pos rfl, if_neg (by rw [← hdigits, hmode]; simp), wordsFrom_capital_boundary h]
    rfl
  | upper =>
    rw [if_neg (by simp), if_neg (by rw [← hdigits, hmode]; simp), wordsFrom_capital_upper h]

/-- **A piece with a capital word behind it** is cut as before, and its last word grows if it has
digits only. The induction is on how the piece is cut; what the mode tells is kept on the way. -/
theorem wordsFrom_append_capital {mode : CaseMode} {word cs : List Char} (hne : cs ≠ [])
    (hcs : ∀ c ∈ cs, c.isAlphanum) (htracks : Tracks mode word cs) {w : List Char}
    (h : CapitalWord w) :
    ∃ ws last, wordsFrom mode word cs = ws ++ [last] ∧
      wordsFrom mode word (cs ++ w) = ws ++ grown last w := by
  fun_induction wordsFrom mode word cs with
  | case1 => exact absurd rfl hne
  | case2 mode word c =>
    refine ⟨[], (c :: word).reverse, rfl, ?_⟩
    rw [List.singleton_append, List.nil_append]
    exact wordsFrom_last htracks (hcs c List.mem_cons_self) h
  | case3 mode word c n rest hcut ih =>
    obtain ⟨ws, last, hbefore, hafter⟩ := ih (List.cons_ne_nil n rest)
      (fun d hd => hcs d (List.mem_cons_of_mem c hd)) (Tracks.start _)
    refine ⟨(c :: word).reverse :: ws, last, by rw [hbefore]; rfl, ?_⟩
    rw [List.cons_append, List.cons_append, wordsFrom, if_pos hcut, ← List.cons_append, hafter]
    rfl
  | case4 mode word c n rest hnot hcut ih =>
    have hn : n.isLower := by
      rw [← isLowercase_ascii (toNat_lt_of_isAlphanum (hcs n (by simp)))]
      exact hcut.2.2
    obtain ⟨ws, last, hbefore, hafter⟩ := ih (List.cons_ne_nil n rest)
      (fun d hd => hcs d (List.mem_cons_of_mem c hd)) (Tracks.cut hn rest)
    refine ⟨word.reverse :: ws, last, by rw [hbefore]; rfl, ?_⟩
    rw [List.cons_append, List.cons_append, wordsFrom, if_neg hnot, if_pos hcut,
      ← List.cons_append, hafter]
    rfl
  | case5 mode word c n rest hnot hnot' ih =>
    obtain ⟨ws, last, hbefore, hafter⟩ := ih (List.cons_ne_nil n rest)
      (fun d hd => hcs d (List.mem_cons_of_mem c hd)) (htracks.next (hcs c List.mem_cons_self))
    refine ⟨ws, last, hbefore, ?_⟩
    rw [List.cons_append, List.cons_append, wordsFrom, if_neg hnot, if_neg hnot',
      ← List.cons_append, hafter]

/-! ## Texts -/

theorem pieces_of_alphanumeric {w : List Char} (h : ∀ c ∈ w, isAlphanumeric c) :
    pieces w = [w] := by
  induction w with
  | nil => rfl
  | cons c w ih =>
    obtain ⟨hc, hw⟩ := List.forall_mem_cons.1 h
    exact pieces_cons hc (ih hw)

/-- What has no separator goes to the last piece. -/
theorem pieces_append {w : List Char} (h : ∀ c ∈ w, isAlphanumeric c) (cs : List Char) :
    ∃ ps p, pieces cs = ps ++ [p] ∧ pieces (cs ++ w) = ps ++ [p ++ w] := by
  induction cs with
  | nil => exact ⟨[], [], rfl, pieces_of_alphanumeric h⟩
  | cons c cs ih =>
    obtain ⟨ps, p, hbefore, hafter⟩ := ih
    cases hc : isAlphanumeric c with
    | false =>
      refine ⟨[] :: ps, p, ?_, ?_⟩
      · rw [pieces_separator hc, hbefore]
        rfl
      · rw [List.cons_append, pieces_separator hc, hafter]
        rfl
    | true =>
      cases ps with
      | nil => exact ⟨[], c :: p, pieces_cons hc hbefore, pieces_cons hc hafter⟩
      | cons first ps =>
        exact ⟨(c :: first) :: ps, p, pieces_cons hc hbefore, pieces_cons hc hafter⟩

theorem CapitalWord.alphanum {w : List Char} (h : CapitalWord w) : ∀ c ∈ w, c.isAlphanum := by
  obtain ⟨capital, next, rest, rfl, hcapital, hsmall⟩ := h
  rw [List.forall_mem_cons]
  exact ⟨isAlphanum_iff.2 (.inl hcapital), fun c hc => isAlphanum_iff.2 (.inr (.inl (hsmall c hc)))⟩

/-- **A text with a capital word behind it** has one word more, or its last word is a number and
grows. -/
theorem words_append_capital {cs w : List Char} (hcs : ∀ c ∈ cs, c.isAlphanum ∨ c = '_')
    (h : CapitalWord w) :
    words (cs ++ w) = words cs ++ [w] ∨
      ∃ ws number, number ≠ [] ∧ (∀ c ∈ number, c.isDigit) ∧
        words cs = ws ++ [number] ∧ words (cs ++ w) = ws ++ [number ++ w] := by
  obtain ⟨ps, p, hbefore, hafter⟩ :=
    pieces_append (fun c hc => isAlphanumeric_of_isAlphanum (h.alphanum c hc)) cs
  have hp : ∀ c ∈ p, c.isAlphanum := by
    intro c hc
    obtain ⟨hin, hal⟩ := mem_pieces (hbefore ▸ List.mem_concat_self) c hc
    exact alphanum_of_alphanumeric (hcs c hin) hal
  simp only [words, hbefore, hafter, List.flatMap_append, List.flatMap_singleton]
  by_cases hnone : p = []
  · subst hnone
    rw [List.nil_append, wordsFrom_capital_boundary h]
    exact .inl (by simp [wordsFrom])
  · obtain ⟨ws, last, hcut, hgrown⟩ := wordsFrom_append_capital hnone hp (Tracks.start p) h
    rw [hcut, hgrown, grown]
    split
    · next hdigits =>
      have hlast : last ∈ wordsFrom .boundary [] p := hcut ▸ List.mem_concat_self
      have hne : last ≠ [] := wordsFrom_ne_nil (by simp) last hlast
      exact .inr ⟨ps.flatMap (wordsFrom .boundary []) ++ ws, last, hne,
        List.all_eq_true.1 hdigits, by simp, by simp⟩
    · exact .inl (by simp)

/-! ## Names -/

/-- What is written for a text that ends in a number ends in a digit. -/
theorem getLast?_number {number : List Char} (hne : number ≠ []) (h : ∀ c ∈ number, c.isDigit)
    (ws : List (List Char)) :
    ∃ d ∈ (['_'].intercalate (ws ++ [lowerWord number])).getLast?, d.isDigit := by
  have hlower : lowerWord number = number.map Char.toLower :=
    lowerWord_alphanum fun c hc => isAlphanum_iff.2 (.inr (.inr (h c hc)))
  have hsome : lowerWord number ≠ [] := by simpa [hlower] using hne
  obtain ⟨d, hd⟩ := Option.ne_none_iff_exists'.1 (mt List.getLast?_eq_none_iff.1 hne)
  refine ⟨d.toLower, ?_, toLower_isDigit (h d (List.mem_of_getLast? hd))⟩
  rw [getLast?_intercalate_concat hsome, hlower, List.getLast?_map, hd]
  rfl

/-- **The name of a text with a capital word behind it** is the name of the text and the small form
of the word, with `_` between them if the text does not end in a digit, and sometimes if it does. -/
theorem snakeChars_append_capital {cs w : List Char} (hcs : ∀ c ∈ cs, c.isAlphanum ∨ c = '_')
    (hne : snakeChars cs ≠ []) (h : CapitalWord w) :
    snakeChars (cs ++ w) = snakeChars cs ++ '_' :: w.map Char.toLower ∨
      (∃ d ∈ (snakeChars cs).getLast?, d.isDigit) ∧
        snakeChars (cs ++ w) = snakeChars cs ++ w.map Char.toLower := by
  have hw := lowerWord_alphanum h.alphanum
  rcases words_append_capital hcs h with happended | ⟨ws, number, hnone, hdigits, hbefore, hafter⟩
  · left
    rcases List.eq_nil_or_concat (words cs) with hnil | ⟨init, last, hwords⟩
    · exact absurd (by rw [snakeChars, hnil]; rfl) hne
    · rw [List.concat_eq_append] at hwords
      simp only [snakeChars, happended, List.map_append, List.map_cons, List.map_nil,
        intercalate_concat, hwords, hw, List.flatMap_append, List.flatMap_singleton]
      simp
  · right
    have hgrown : lowerWord (number ++ w) = lowerWord number ++ w.map Char.toLower := by
      have hnumber : ∀ c ∈ number, c.isAlphanum := fun c hc =>
        isAlphanum_iff.2 (.inr (.inr (hdigits c hc)))
      rw [lowerWord_alphanum (List.forall_mem_append.2 ⟨hnumber, h.alphanum⟩), List.map_append,
        lowerWord_alphanum hnumber]
    simp only [snakeChars, hbefore, hafter, List.map_append, List.map_cons, List.map_nil, hgrown]
    refine ⟨getLast?_number hnone hdigits _, ?_⟩
    rw [intercalate_concat, intercalate_concat, List.append_assoc]

example : (snakeCase "foo_1_Counter", snakeCase "foo_1Counter") =
    ("foo_1_counter", "foo_1counter") := by
  decide +kernel

theorem map_toLower_suffix {cs w : List Char} (hcs : ∀ c ∈ cs, c.isAlphanum ∨ c = '_')
    (hne : snakeChars cs ≠ []) (h : CapitalWord w) :
    w.map Char.toLower <:+ snakeChars (cs ++ w) := by
  rcases snakeChars_append_capital hcs hne h with happended | ⟨-, hgrown⟩
  · rw [happended]
    exact (List.suffix_cons '_' _).trans (List.suffix_append _ _)
  · rw [hgrown]
    exact List.suffix_append _ _

/-- The name of the text is read off again: before the small form of the word stands `_`, which no
name ends with, or a digit. -/
theorem snakeChars_append_injective {x y w : List Char} (hx : ∀ c ∈ x, c.isAlphanum ∨ c = '_')
    (hy : ∀ c ∈ y, c.isAlphanum ∨ c = '_') (hxne : snakeChars x ≠ []) (hyne : snakeChars y ≠ [])
    (h : CapitalWord w) (heq : snakeChars (x ++ w) = snakeChars (y ++ w)) :
    snakeChars x = snakeChars y := by
  -- the two forms would make a mark of the digit before the word
  have hmixed : ∀ {a b : List Char}, (∃ d ∈ b.getLast?, d.isDigit) →
      a ++ '_' :: w.map Char.toLower ≠ b ++ w.map Char.toLower := by
    rintro a b ⟨d, hd, hdigit⟩ hsame
    have hmark : (a ++ ['_']) ++ w.map Char.toLower = b ++ w.map Char.toLower := by
      simpa using hsame
    rw [← List.append_cancel_right hmark, List.getLast?_concat] at hd
    cases hd
    cases hdigit
  rcases snakeChars_append_capital hx hxne h with hxw | ⟨hxdigit, hxw⟩
  · rcases snakeChars_append_capital hy hyne h with hyw | ⟨hydigit, hyw⟩
    · exact List.append_cancel_right (hxw.symm.trans (heq.trans hyw))
    · exact absurd (hxw.symm.trans (heq.trans hyw)) (hmixed hydigit)
  · rcases snakeChars_append_capital hy hyne h with hyw | ⟨hydigit, hyw⟩
    · exact absurd (hyw.symm.trans (heq.symm.trans hxw)) (hmixed hxdigit)
    · exact List.append_cancel_right (hxw.symm.trans (heq.trans hyw))

end MetricFacade.Text
