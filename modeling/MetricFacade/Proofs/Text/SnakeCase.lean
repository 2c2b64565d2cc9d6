import MetricFacade.Text.SnakeCase

/-!
# Snake case of ASCII words

Cutting a text into words loses nothing but the separators, and below 128 writing a word
small is done letter by letter. So a text of letters, digits and `_` that has a letter behind
its leading underscores comes out as small letters and digits, joined with `_`.

Results:

* `wordsFrom_flatten`, `wordsFrom_ne_nil`: the words of a piece, put together, are the piece.
* `lowerWord_ascii`: small letters, one for one.
* `smallWord_of_mem_words`: the words of letters, digits and `_`, written small.
* `snakeChars_shape`: small words joined with `_`, a letter first.
* `mark_notMem_snakeCase`: whatever the text, none of its marks is left.
-/
namespace MetricFacade.Text

/-! ## ASCII characters -/

theorem isUpper_iff {c : Char} : c.isUpper ↔ 65 ≤ c.toNat ∧ c.toNat ≤ 90 :=
  decide_eq_true_iff

theorem isLower_iff {c : Char} : c.isLower ↔ 97 ≤ c.toNat ∧ c.toNat ≤ 122 := by
  change (decide (97 ≤ c.val) && decide (c.val ≤ 122)) = true ↔ _
  rw [Bool.and_eq_true, decide_eq_true_iff, decide_eq_true_iff]
  rfl

theorem isAlpha_iff {c : Char} : c.isAlpha ↔ c.isUpper ∨ c.isLower :=
  Bool.or_eq_true_iff

theorem isDigit_iff {c : Char} : c.isDigit ↔ 48 ≤ c.toNat ∧ c.toNat ≤ 57 := by
  simp only [Char.isDigit, Bool.and_eq_true, decide_eq_true_eq, UInt32.le_iff_toNat_le, ge_iff_le]
  rfl

theorem not_isDigit_of_isAlpha {c : Char} (h : c.isAlpha) : ¬ c.isDigit := by
  rw [isAlpha_iff, isUpper_iff, isLower_iff] at h
  rw [isDigit_iff]
  omega

theorem isAlphanum_iff {c : Char} : c.isAlphanum ↔ c.isUpper ∨ c.isLower ∨ c.isDigit := by
  rw [← or_assoc, ← isAlpha_iff, Char.isAlphanum, Bool.or_eq_true]

theorem toNat_lt_of_isAlphanum {c : Char} (h : c.isAlphanum) : c.toNat < 128 := by
  rw [isAlphanum_iff, isUpper_iff, isLower_iff, isDigit_iff] at h
  omega

theorem isAlphanumeric_of_isAlphanum {c : Char} (h : c.isAlphanum) : isAlphanumeric c := by
  rw [isAlphanumeric, if_pos (toNat_lt_of_isAlphanum h)]
  exact h

theorem toNat_toLower {c : Char} :
    c.toLower.toNat = if c.isUpper then c.toNat + 32 else c.toNat := by
  by_cases h : c.isUpper
  · have hupper := isUpper_iff.1 h
    have hlower : c.toLower.val = c.val + 32 := congrArg Char.val (dif_pos hupper)
    rw [if_pos h]
    change c.toLower.val.toNat = c.val.toNat + 32
    change 65 ≤ c.val.toNat ∧ c.val.toNat ≤ 90 at hupper
    rw [hlower, UInt32.toNat_add]
    change (c.val.toNat + 32) % 4294967296 = _
    omega
  · have hsame : c.toLower = c := dif_neg (mt isUpper_iff.2 h)
    rw [if_neg h, hsame]

theorem toLower_isLower {c : Char} (h : c.isAlpha) : c.toLower.isLower := by
  rw [isAlpha_iff] at h
  rw [isLower_iff, toNat_toLower]
  split
  · next hupper => rw [isUpper_iff] at hupper; omega
  · next hnot =>
    exact isLower_iff.1 (h.resolve_left hnot)

theorem toLower_isDigit {c : Char} (h : c.isDigit) : c.toLower.isDigit := by
  rw [isDigit_iff] at h
  rw [isDigit_iff, toNat_toLower, if_neg (by rw [isUpper_iff]; omega)]
  exact h

theorem toLower_of_small {c : Char} (h : c.isLower ∨ c.isDigit) : c.toLower = c := by
  rw [isLower_iff, isDigit_iff] at h
  rw [← Char.toNat_inj, toNat_toLower, if_neg]
  rw [isUpper_iff]
  omega

/-! ## Letter case of ASCII characters -/

theorem isLowercase_ascii {c : Char} (h : c.toNat < 128) : isLowercase c = c.isLower :=
  if_pos h

theorem isUppercase_ascii {c : Char} (h : c.toNat < 128) : isUppercase c = c.isUpper :=
  if_pos h

theorem isLower_eq_false {c : Char} (h : c.isUpper) : c.isLower = false := by
  rw [isUpper_iff] at h
  rw [Bool.eq_false_iff, ne_eq, isLower_iff]
  omega

theorem isUpper_eq_false {c : Char} (h : c.isLower) : c.isUpper = false := by
  rw [isLower_iff] at h
  rw [Bool.eq_false_iff, ne_eq, isUpper_iff]
  omega

theorem isLowercase_of_isLower {c : Char} (h : c.isLower) : isLowercase c := by
  have := isLower_iff.1 h
  rwa [isLowercase_ascii (by omega)]

theorem isUppercase_of_isLower {c : Char} (h : c.isLower) : isUppercase c = false := by
  have := isLower_iff.1 h
  rw [isUppercase_ascii (by omega), isUpper_eq_false h]

theorem isUppercase_of_isUpper {c : Char} (h : c.isUpper) : isUppercase c := by
  have := isUpper_iff.1 h
  rwa [isUppercase_ascii (by omega)]

theorem isLowercase_of_isUpper {c : Char} (h : c.isUpper) : isLowercase c = false := by
  have := isUpper_iff.1 h
  rw [isLowercase_ascii (by omega), isLower_eq_false h]

theorem caseless_of_isDigit {c : Char} (h : c.isDigit) :
    isLowercase c = false ∧ isUppercase c = false := by
  rw [isDigit_iff] at h
  rw [isLowercase_ascii (by omega), isUppercase_ascii (by omega), Bool.eq_false_iff, ne_eq,
    isLower_iff, Bool.eq_false_iff, ne_eq, isUpper_iff]
  omega

/-! ## Words -/

theorem wordsFrom_flatten (mode : CaseMode) (word : List Char) {cs : List Char} (h : cs ≠ []) :
    (wordsFrom mode word cs).flatten = word.reverse ++ cs := by
  fun_induction wordsFrom mode word cs with
  | case1 => exact absurd rfl h
  | case2 mode word c => simp
  | case3 mode word c n rest hcut ih => simp [ih]
  | case4 mode word c n rest hnot hcut ih => simp [ih]
  | case5 mode word c n rest hnot hnot' ih => simp [ih]

/-- A word that has been begun is not empty; in mode `upper` one has. -/
theorem wordsFrom_ne_nil {mode : CaseMode} {word cs : List Char} (h : mode = .upper → word ≠ []) :
    ∀ w ∈ wordsFrom mode word cs, w ≠ [] := by
  fun_induction wordsFrom mode word cs with
  | case1 => simp
  | case2 mode word c => simp
  | case3 mode word c n rest hcut ih =>
    intro w hw
    rcases List.mem_cons.1 hw with rfl | hw
    · simp
    · exact ih (by simp) w hw
  | case4 mode word c n rest hnot hcut ih =>
    intro w hw
    rcases List.mem_cons.1 hw with rfl | hw
    · simpa using h hcut.1
    · exact ih (by simp) w hw
  | case5 mode word c n rest hnot hnot' ih => exact ih (by simp)

/-- Nothing is cut without a capital. -/
theorem wordsFrom_of_no_capital (mode : CaseMode) (word : List Char) {cs : List Char}
    (hne : cs ≠ []) (h : ∀ c ∈ cs, isUppercase c = false) :
    wordsFrom mode word cs = [word.reverse ++ cs] := by
  fun_induction wordsFrom mode word cs with
  | case1 => exact absurd rfl hne
  | case2 mode word c => simp
  | case3 mode word c n rest hcut ih => simp [h n (by simp)] at hcut
  | case4 mode word c n rest hnot hcut ih => simp [h c (by simp)] at hcut
  | case5 mode word c n rest hnot hnot' ih =>
    rw [ih (List.cons_ne_nil n rest) fun d hd => h d (List.mem_cons_of_mem c hd)]
    simp

theorem lowerWord_ascii {w : List Char} (h : ∀ c ∈ w, c.toNat < 128) :
    lowerWord w = w.map Char.toLower := by
  fun_induction lowerWord w with
  | case1 => rfl
  | case2 => exact absurd (h 'Σ' (by simp)) (by decide)
  | case3 c hc => simp [toLowercase, h c (by simp)]
  | case4 c rest hrest ih =>
    have hc : toLowercase c = [c.toLower] := by simp [toLowercase, h c (by simp)]
    rw [hc, ih fun d hd => h d (List.mem_cons_of_mem c hd)]
    rfl

theorem lowerWord_alphanum {w : List Char} (h : ∀ c ∈ w, c.isAlphanum) :
    lowerWord w = w.map Char.toLower :=
  lowerWord_ascii fun c hc => toNat_lt_of_isAlphanum (h c hc)

theorem lowerWord_small {w : List Char} (h : ∀ c ∈ w, c.isLower ∨ c.isDigit) :
    lowerWord w = w := by
  calc lowerWord w
      = w.map Char.toLower := lowerWord_alphanum fun c hc => isAlphanum_iff.2 (.inr (h c hc))
    _ = w.map id := List.map_congr_left fun c hc => toLower_of_small (h c hc)
    _ = w := List.map_id w

theorem mem_pieces {cs p : List Char} (h : p ∈ pieces cs) :
    ∀ c ∈ p, c ∈ cs ∧ isAlphanumeric c := by
  fun_induction pieces cs generalizing p with
  | case1 => simp_all
  | case2 d rest hd hnone ih =>
    intro c hc
    rw [List.mem_singleton.1 h, List.mem_singleton] at hc
    exact ⟨by simp [hc], hc ▸ hd⟩
  | case3 d rest hd q qs hsome ih =>
    intro c hc
    rcases List.mem_cons.1 h with rfl | h
    · rcases List.mem_cons.1 hc with rfl | hc
      · exact ⟨by simp, hd⟩
      · obtain ⟨hin, hal⟩ := ih (hsome ▸ List.mem_cons_self) c hc
        exact ⟨List.mem_cons_of_mem d hin, hal⟩
    · obtain ⟨hin, hal⟩ := ih (hsome ▸ List.mem_cons_of_mem q h) c hc
      exact ⟨List.mem_cons_of_mem d hin, hal⟩
  | case4 d rest hd ih =>
    intro c hc
    rcases List.mem_cons.1 h with rfl | h
    · cases hc
    · obtain ⟨hin, hal⟩ := ih h c hc
      exact ⟨List.mem_cons_of_mem d hin, hal⟩

theorem mem_words {cs w : List Char} (h : w ∈ words cs) :
    w ≠ [] ∧ ∀ c ∈ w, c ∈ cs ∧ isAlphanumeric c := by
  obtain ⟨p, hp, hw⟩ := List.mem_flatMap.1 h
  refine ⟨wordsFrom_ne_nil (by simp) w hw, fun c hc => mem_pieces hp c ?_⟩
  have hpiece : p ≠ [] := by rintro rfl; cases hw
  have hflat := wordsFrom_flatten .boundary [] hpiece
  rw [List.reverse_nil, List.nil_append] at hflat
  rw [← hflat]
  exact List.mem_flatten.2 ⟨w, hw, hc⟩

theorem words_separator {c : Char} (hc : isAlphanumeric c = false) (cs : List Char) :
    words (c :: cs) = words cs := by
  simp [words, pieces, hc, wordsFrom]

/-- Marks in front are no part of the first word. -/
theorem words_skip_marks {lead : List Char} (h : ∀ d ∈ lead, d = '_') (cs : List Char) :
    words (lead ++ cs) = words cs := by
  induction lead with
  | nil => rfl
  | cons d lead ih =>
    obtain ⟨rfl, hlead⟩ := List.forall_mem_cons.1 h
    rw [List.cons_append, words_separator (by decide), ih hlead]

theorem pieces_ne_nil (cs : List Char) : pieces cs ≠ [] := by
  fun_cases pieces cs <;> simp

theorem pieces_cons {c : Char} (hc : isAlphanumeric c) {cs p : List Char} {ps : List (List Char)}
    (h : pieces cs = p :: ps) : pieces (c :: cs) = (c :: p) :: ps := by
  rw [pieces, if_pos hc, h]

theorem pieces_separator {c : Char} (hc : isAlphanumeric c = false) (cs : List Char) :
    pieces (c :: cs) = [] :: pieces cs := by
  rw [pieces, hc, if_neg Bool.false_ne_true]

theorem pieces_start {c : Char} (hc : isAlphanumeric c) (cs : List Char) :
    ∃ p ps, pieces (c :: cs) = (c :: p) :: ps := by
  rw [pieces, if_pos hc]
  split
  · exact ⟨[], [], rfl⟩
  · exact ⟨_, _, rfl⟩

/-- The first character of a text begins its first word. -/
theorem words_start {c : Char} (hc : isAlphanumeric c) (cs : List Char) :
    ∃ first ws, words (c :: cs) = (c :: first) :: ws := by
  obtain ⟨p, ps, hpieces⟩ := pieces_start hc cs
  have hflat := wordsFrom_flatten .boundary [] (List.cons_ne_nil c p)
  have hne : ∀ w ∈ wordsFrom .boundary [] (c :: p), w ≠ [] := wordsFrom_ne_nil (by simp)
  rw [words, hpieces, List.flatMap_cons]
  match hw : wordsFrom .boundary [] (c :: p) with
  | [] => rw [hw] at hflat; cases hflat
  | [] :: _ => exact absurd rfl (hne [] (by simp [hw]))
  | (d :: first) :: ws =>
    rw [hw] at hflat
    simp only [List.flatten_cons, List.cons_append, List.reverse_nil, List.nil_append,
      List.cons.injEq] at hflat
    exact ⟨first, ws ++ ps.flatMap (wordsFrom .boundary []), by rw [hflat.1]; rfl⟩

/-! ## The result -/

theorem toList_snakeCase (s : String) : (snakeCase s).toList = snakeChars s.toList :=
  String.toList_ofList

/-- A word of small letters and digits. -/
def SmallWord (w : List Char) : Prop :=
  w ≠ [] ∧ ∀ c ∈ w, c.isLower ∨ c.isDigit

theorem smallWord_lowerWord {w : List Char} (hne : w ≠ []) (h : ∀ c ∈ w, c.isAlphanum) :
    SmallWord (lowerWord w) := by
  rw [lowerWord_alphanum h]
  refine ⟨by simpa using hne, ?_⟩
  intro d hd
  obtain ⟨c, hc, rfl⟩ := List.mem_map.1 hd
  have hal := h c hc
  rw [Char.isAlphanum, Bool.or_eq_true] at hal
  rcases hal with hletter | hdigit
  · exact .inl (toLower_isLower hletter)
  · exact .inr (toLower_isDigit hdigit)

/-- Of letters, digits and `_` only the mark is no part of a word. -/
theorem alphanum_of_alphanumeric {c : Char} (h : c.isAlphanum ∨ c = '_') (hc : isAlphanumeric c) :
    c.isAlphanum := by
  refine h.resolve_right ?_
  rintro rfl
  exact absurd hc (by decide)

theorem alphanum_of_mem_words {cs w : List Char} (h : ∀ c ∈ cs, c.isAlphanum ∨ c = '_')
    (hw : w ∈ words cs) : w ≠ [] ∧ ∀ c ∈ w, c.isAlphanum := by
  obtain ⟨hne, hchars⟩ := mem_words hw
  exact ⟨hne, fun c hc => alphanum_of_alphanumeric (h c (hchars c hc).1) (hchars c hc).2⟩

theorem smallWord_of_mem_words {cs : List Char} (h : ∀ c ∈ cs, c.isAlphanum ∨ c = '_') :
    ∀ w ∈ (words cs).map lowerWord, SmallWord w := by
  intro w hw
  obtain ⟨v, hv, rfl⟩ := List.mem_map.1 hw
  obtain ⟨hne, hchars⟩ := alphanum_of_mem_words h hv
  exact smallWord_lowerWord hne hchars

/-- Snake case of letters, digits and `_` with a letter behind the leading underscores: small
words joined with `_`, the first of which starts with a letter. -/
theorem snakeChars_shape {lead rest : List Char} {c : Char} (hlead : ∀ d ∈ lead, d = '_')
    (hc : c.isAlpha) (hrest : ∀ d ∈ rest, d.isAlphanum ∨ d = '_') :
    ∃ a first ws, snakeChars (lead ++ c :: rest) = ['_'].intercalate ((a :: first) :: ws) ∧
      a.isLower ∧ ∀ w ∈ (a :: first) :: ws, SmallWord w := by
  have hcal : c.isAlphanum := by simp [Char.isAlphanum, hc]
  have hchars : ∀ d ∈ c :: rest, d.isAlphanum ∨ d = '_' :=
    List.forall_mem_cons.2 ⟨.inl hcal, hrest⟩
  obtain ⟨first, ws, hwords⟩ := words_start (isAlphanumeric_of_isAlphanum hcal) rest
  have hsmall := smallWord_of_mem_words hchars
  have hfirst : lowerWord (c :: first) = c.toLower :: first.map Char.toLower :=
    lowerWord_alphanum (alphanum_of_mem_words hchars (hwords ▸ List.mem_cons_self)).2
  rw [hwords, List.map_cons, hfirst] at hsmall
  refine ⟨c.toLower, first.map Char.toLower, ws.map lowerWord, ?_, toLower_isLower hc, hsmall⟩
  rw [snakeChars, words_skip_marks hlead, hwords, List.map_cons, hfirst]

/-! ## Marks -/

/-- A character before the letters of ASCII, as line breaks and colons are. -/
def IsMark (c : Char) : Prop :=
  0 < c.toNat ∧ c.toNat < 65

instance (c : Char) : Decidable (IsMark c) :=
  inferInstanceAs (Decidable (0 < c.toNat ∧ c.toNat < 65))

/-- A number that is no code point gives the first character. -/
theorem toNat_ofNat (n : Nat) : (Char.ofNat n).toNat = n ∨ (Char.ofNat n).toNat = 0 := by
  by_cases h : n.isValidChar
  · rw [Char.ofNat, dif_pos h]
    exact .inl rfl
  · rw [Char.ofNat, dif_neg h]
    exact .inr rfl

/-- The small forms of other characters are nowhere near a mark. -/
theorem mark_notMem_toLowercase {mark c : Char} (hmark : IsMark mark) (h : c ≠ mark) :
    mark ∉ toLowercase c := by
  have hne : ∀ {d : Char}, d.toNat ≠ mark.toNat → mark ≠ d := by
    rintro d hd rfl
    exact hd rfl
  obtain ⟨hpos, hsmall⟩ := hmark
  unfold toLowercase
  split
  · rw [List.mem_singleton]
    refine hne ?_
    rw [toNat_toLower]
    split
    · next hupper =>
      have := isUpper_iff.1 hupper
      omega
    · exact fun hc => h (Char.toNat_inj.1 hc)
  split
  · have hletter : 'i'.toNat = 105 ∧ '\u0307'.toNat = 775 := by decide
    simp only [List.mem_cons, List.not_mem_nil, or_false, not_or]
    exact ⟨hne (by omega), hne (by omega)⟩
  split
  · rename_i shift hshift
    have hfar : ∀ s ∈ lowercaseShifts, (64 : Int) < s.run.first + s.shift := by decide +kernel
    have hcovers : shift.run.covers c.toNat := by simpa using List.find?_some hshift
    have hfirst : shift.run.first ≤ c.toNat := by
      simp only [CharRun.covers, Bool.and_eq_true, decide_eq_true_eq] at hcovers
      exact hcovers.1.1
    have hshifted := hfar shift (List.mem_of_find?_eq_some hshift)
    rw [List.mem_singleton]
    refine hne ?_
    rcases toNat_ofNat (c.toNat + shift.shift).toNat with hn | hn <;> rw [hn] <;> omega
  · rw [List.mem_singleton]
    exact Ne.symm h

theorem mark_notMem_lowerWord {mark : Char} (hmark : IsMark mark) {w : List Char}
    (h : mark ∉ w) : mark ∉ lowerWord w := by
  fun_induction lowerWord w with
  | case1 => exact h
  | case2 =>
    rw [List.mem_singleton]
    rintro rfl
    exact absurd hmark (by decide)
  | case3 c hc => exact mark_notMem_toLowercase hmark fun hc' => h (by simp [hc'])
  | case4 c rest hrest ih =>
    rw [List.mem_cons, not_or] at h
    rw [List.mem_append, not_or]
    exact ⟨mark_notMem_toLowercase hmark (Ne.symm h.1), ih h.2⟩

theorem mem_of_mem_intercalate {c : Char} {sep : List Char} {parts : List (List Char)}
    (h : c ∈ sep.intercalate parts) : c ∈ sep ∨ ∃ part ∈ parts, c ∈ part := by
  induction parts with
  | nil => cases h
  | cons part rest ih =>
    cases rest with
    | nil =>
      rw [List.intercalate_singleton] at h
      exact .inr ⟨part, by simp, h⟩
    | cons next rest =>
      rw [List.intercalate_cons_cons, List.append_assoc, List.mem_append, List.mem_append] at h
      rcases h with hpart | hsep | hrest
      · exact .inr ⟨part, by simp, hpart⟩
      · exact .inl hsep
      · refine (ih hrest).imp_right ?_
        rintro ⟨p, hp, hc⟩
        exact ⟨p, List.mem_cons_of_mem part hp, hc⟩

/-- Marks that part words are no part of them. -/
theorem mark_notMem_snakeCase {mark : Char} (hmark : IsMark mark)
    (hparts : isAlphanumeric mark = false) (s : String) : mark ∉ (snakeCase s).toList := by
  rw [toList_snakeCase, snakeChars]
  intro hmem
  rcases mem_of_mem_intercalate hmem with hjoin | ⟨small, hsmall, hin⟩
  · rw [List.mem_singleton.1 hjoin] at hmark
    exact absurd hmark (by decide)
  · obtain ⟨w, hw, rfl⟩ := List.mem_map.1 hsmall
    refine mark_notMem_lowerWord hmark (fun h => ?_) hin
    rw [((mem_words hw).2 mark h).2] at hparts
    cases hparts

end MetricFacade.Text
