import Mathlib.Data.List.Find
import Mathlib.Data.List.TakeWhile
import MetricFacade.Proofs.Rust.Ident
import MetricFacade.Proofs.Text.Span
import MetricFacade.Rust.Lexer

/-!
# Written tokens are read back

What is written for a text is read back as its value, whatever the text is, since every escape is
undone and no quote of its own is left standing. A token is read as far as it was written if what
follows cannot go on with it, which is so behind a space and before a closing bracket.

Results:

* `readText_escapeChars`: escaping is undone.
* `Legible`: a token is read as it was written.
* `lex_render`: so is a list of them.
-/
namespace MetricFacade.Rust.Lexer

open Check Ident

/-! ## Texts -/

theorem hexValue?_digitChar : ∀ d < 16, Json.hexValue? d.digitChar = some d ∧ d.digitChar ≠ '\x7d' := by
  decide

theorem readText_digit {d : Nat} (hd : d < 16) {number digits : Nat} (hroom : digits < 6)
    (rest : List Char) :
    readText (.scalar number digits) (d.digitChar :: rest) =
      readText (.scalar (16 * number + d) (digits + 1)) rest := by
  obtain ⟨hvalue, hbrace⟩ := hexValue?_digitChar d hd
  rw [readText, if_neg hbrace, if_pos hroom, hvalue, Option.bind_some]

/-- The digits of a number are read one after the other. -/
theorem readText_toDigits (n : Nat) (hroom : (Nat.toDigits 16 n).length ≤ 6) (rest : List Char) :
    readText (.scalar 0 0) (Nat.toDigits 16 n ++ rest) =
      readText (.scalar n (Nat.toDigits 16 n).length) rest := by
  induction n using Nat.strong_induction_on generalizing rest with
  | h n ih =>
    rw [Nat.toDigits_eq_if (by decide)] at hroom ⊢
    split at hroom
    · next hsmall =>
      have hdigit := @readText_digit n hsmall 0 0 (by decide) rest
      simpa [hsmall] using hdigit
    · next hlarge =>
      rw [List.length_append, List.length_singleton] at hroom
      have hlast : n % 16 < 16 := Nat.mod_lt n (by decide)
      rw [if_neg hlarge, List.append_assoc, ih (n / 16) (by omega) (by omega),
        List.singleton_append, readText_digit hlast (by omega), Nat.div_add_mod,
        List.length_append, List.length_singleton]

theorem readText_hexEscape (c : Char) (rest : List Char) :
    readText .plain (hexEscape c ++ rest) = push c (readText .plain rest) := by
  have hsmall : c.toNat < 16 ^ 6 := by
    have hvalid := c.valid
    have : c.toNat = c.val.toNat := rfl
    rcases hvalid with h | h <;> omega
  have hlength : (Nat.toDigits 16 c.toNat).length ≤ 6 :=
    (Nat.length_toDigits_le_iff (by decide) (by decide)).2 hsmall
  have hsome : 0 < (Nat.toDigits 16 c.toNat).length :=
    List.length_pos_of_ne_nil Nat.toDigits_ne_nil
  have hstart : readText .plain (hexEscape c ++ rest) =
      readText (.scalar 0 0) (Nat.toDigits 16 c.toNat ++ '\x7d' :: rest) := by
    simp [hexEscape, readText]
  rw [hstart, readText_toDigits _ hlength, readText, if_pos rfl, if_pos ⟨hsome, c.valid⟩,
    Char.ofNat_toNat]

/-- A character between the quotes is read as itself, whatever follows it. -/
theorem readText_escapeChar (c : Char) (next : Option Char) (rest : List Char) :
    readText .plain (escapeChar c next ++ rest) = push c (readText .plain rest) := by
  unfold escapeChar
  split_ifs with hnul hoctal htab hline hreturn hquote hslash hplain
  · subst hnul
    rfl
  · subst hnul
    rfl
  · subst htab
    rfl
  · subst hline
    rfl
  · subst hreturn
    rfl
  · subst hquote
    rfl
  · subst hslash
    rfl
  · rw [List.singleton_append]
    simp [readText, hreturn, hslash]
  · exact readText_hexEscape c rest

theorem readText_escapeChars (cs rest : List Char) :
    readText .plain (escapeChars cs ++ '"' :: rest) = some (cs, rest) := by
  induction cs with
  | nil => rfl
  | cons c cs ih =>
    rw [escapeChars, List.append_assoc, readText_escapeChar, ih]
    rfl

theorem exists_digit_of_mem_toDigits {n : Nat} {c : Char} (h : c ∈ Nat.toDigits 16 n) :
    ∃ d < 16, c = d.digitChar := by
  induction n using Nat.strong_induction_on with
  | h n ih =>
    rw [Nat.toDigits_eq_if (by decide)] at h
    split at h
    · next hsmall => exact ⟨n, hsmall, List.mem_singleton.1 h⟩
    · rcases List.mem_append.1 h with hfront | hlast
      · exact ih (n / 16) (by omega) hfront
      · exact ⟨n % 16, Nat.mod_lt n (by decide), List.mem_singleton.1 hlast⟩

/-- A line break is escaped like every control character. -/
theorem line_notMem_escapeChar (c : Char) (next : Option Char) : '\n' ∉ escapeChar c next := by
  unfold escapeChar
  split_ifs with _ _ _ _ _ _ _ hplain
  all_goals try decide
  · rw [List.mem_singleton]
    rintro rfl
    exact absurd hplain (by decide)
  · intro hline
    have hdigit : ∀ d < 16, d.digitChar ≠ '\n' := by decide
    have hin : '\n' ∈ Nat.toDigits 16 c.toNat := by simpa [hexEscape] using hline
    obtain ⟨d, hd, heq⟩ := exists_digit_of_mem_toDigits hin
    exact hdigit d hd heq.symm

theorem line_notMem_escapeChars (cs : List Char) : '\n' ∉ escapeChars cs := by
  induction cs with
  | nil => simp [escapeChars]
  | cons c cs ih =>
    rw [escapeChars, List.mem_append, not_or]
    exact ⟨line_notMem_escapeChar c _, ih⟩

theorem readRaw_append {cs : List Char} (hquote : '"' ∉ cs) (hreturn : '\r' ∉ cs)
    (rest : List Char) : readRaw (cs ++ '"' :: rest) = some (cs, rest) := by
  induction cs with
  | nil => rfl
  | cons c cs ih =>
    rw [List.mem_cons, not_or] at hquote hreturn
    rw [List.cons_append, readRaw, if_neg (Ne.symm hreturn.1), ih hquote.2 hreturn.2]
    · rfl
    · exact Ne.symm hquote.1

/-! ## Where a token ends -/

/-- No token but an opening bracket goes on with what starts like this. -/
def Boundary (rest : List Char) : Prop :=
  ∀ c ∈ rest.head?, c ∈ [' ', '\n', ')', ']']

theorem Boundary.not_startsWith {rest : List Char} (h : Boundary rest) {p : Char → Bool}
    (hp : [' ', '\n', ')', ']'].all fun c => !p c) : startsWith p rest = false := by
  cases rest with
  | nil => rfl
  | cons c rest =>
    have hc := List.all_eq_true.1 hp c (h c rfl)
    simpa [startsWith] using hc

/-! ## Words and marks -/

/-- A text with this start is a word. -/
structure Wordlike (cs : List Char) : Prop where
  start : startsWith isWordStart cs
  chars : ∀ c ∈ cs, isWordChar c

theorem Wordlike.ne_nil {cs : List Char} (h : Wordlike cs) : cs ≠ [] := by
  rintro rfl
  exact absurd h.start (by decide)

theorem wordlike_of_shape {s : String} (h : WordShape s) : Wordlike s.toList where
  start := by
    obtain ⟨c, rest, hs, hc, -⟩ := h
    rw [hs]
    simpa [startsWith, isWordStart] using hc
  chars := h.chars

theorem readWord_append {word rest : List Char} (hword : Wordlike word) (hrest : Boundary rest) :
    readWord (word ++ rest) = some (word, rest) := by
  obtain ⟨c, cs, rfl⟩ := List.exists_cons_of_ne_nil hword.ne_nil
  obtain ⟨htake, hdrop⟩ := Text.takeWhile_run hword.chars (hrest.not_startsWith (by decide))
  have hstart : startsWith isWordStart (c :: cs ++ rest) := hword.start
  have hfree : startsWith isPrefixed rest = false := hrest.not_startsWith (by decide)
  rw [readWord, htake, hdrop, hstart, hfree]
  rfl

theorem ne_of_apart {p : Char → Bool} {c d : Char} (hc : p c) (hd : p d = false) : c ≠ d := by
  rintro rfl
  rw [hd] at hc
  cases hc

theorem not_isSpace {p : Char → Bool} (hp : spaces.all fun c => !p c) {c : Char} (hc : p c) :
    isSpace c = false := by
  rw [isSpace, decide_eq_false_iff_not]
  intro hspace
  have hnot := List.all_eq_true.1 hp c hspace
  rw [hc] at hnot
  cases hnot

theorem not_isPrefixed {c : Char} (h : isWordChar c) : isPrefixed c = false := by
  have hquote := ne_of_apart h (d := '"') (by decide)
  have hlifetime := ne_of_apart h (d := '\x27') (by decide)
  have hhash := ne_of_apart h (d := '#') (by decide)
  simp [isPrefixed, hquote, hlifetime, hhash]

/-- What goes on as a word ends is no prefix's. -/
theorem not_prefixed {cs rest : List Char} (hcs : ∀ c ∈ cs, isWordChar c) (hrest : Boundary rest) :
    startsWith isPrefixed (cs ++ rest) = false := by
  cases cs with
  | nil => exact hrest.not_startsWith (by decide)
  | cons c cs => exact not_isPrefixed (hcs c List.mem_cons_self)

/-- A word is read as a word, also where it starts like a raw text. -/
theorem lexToken_word {word rest : List Char} (hword : Wordlike word) (hrest : Boundary rest) :
    lexToken (word ++ rest) = some (.code (String.ofList word), rest) := by
  have hread := readWord_append hword hrest
  obtain ⟨c, cs, rfl⟩ := List.exists_cons_of_ne_nil hword.ne_nil
  have hstart : isWordStart c := hword.start
  have hquote := ne_of_apart hstart (d := '"') (by decide)
  have hlifetime := ne_of_apart hstart (d := '\x27') (by decide)
  have hfree := not_prefixed (fun d hd => hword.chars d (List.mem_cons_of_mem c hd)) hrest
  rw [List.cons_append] at hread ⊢
  simp [lexToken, hquote, hlifetime, hfree, hstart, hread, codeOf]

/-- A mark that starts here and is longer would have the boundary inside. -/
theorem prefix_of_mark {mark other rest : List Char} (hne : mark ≠ [])
    (hinner : ∀ c ∈ other.drop 1, c ∉ [' ', '\n', ')', ']']) (hrest : Boundary rest)
    (hbegins : other <+: mark ++ rest) : other <+: mark := by
  by_contra hlonger
  have hmark : mark <+: other := by
    refine List.prefix_of_prefix_length_le (List.prefix_append mark rest) hbegins ?_
    by_contra hshort
    exact hlonger (List.prefix_of_prefix_length_le hbegins (List.prefix_append mark rest) (by omega))
  obtain ⟨tail, rfl⟩ := hmark
  rw [List.prefix_append_right_inj] at hbegins
  cases tail with
  | nil => exact hlonger (by simp)
  | cons c tail =>
    obtain ⟨behind, rfl⟩ := hbegins
    obtain ⟨first, others, rfl⟩ := List.exists_cons_of_ne_nil hne
    exact hinner c (by simp) (hrest c rfl)

theorem marks_inner : ∀ mark ∈ marks, mark.toList ≠ [] ∧
    ∀ c ∈ mark.toList.drop 1, c ∉ [' ', '\n', ')', ']'] := by
  have hall : ∀ mark ∈ marks, mark.toList ≠ [] ∧
      (mark.toList.drop 1).all (fun c => c ∉ [' ', '\n', ')', ']']) := by decide +kernel
  simpa only [List.all_eq_true, decide_eq_true_eq] using hall

theorem find?_marks : ∀ mark ∈ marks,
    marks.find? (fun other => other.toList.isPrefixOf mark.toList) = some mark := by decide +kernel

theorem readMark_append {mark : String} (hmark : mark ∈ marks) {rest : List Char}
    (hrest : Boundary rest) : readMark (mark.toList ++ rest) = some (mark.toList, rest) := by
  have hfind : marks.find? (fun other => other.toList.isPrefixOf (mark.toList ++ rest)) =
      some mark := by
    rw [← find?_marks mark hmark]
    refine List.find?_congr fun other hother => ?_
    rw [Bool.eq_iff_iff, List.isPrefixOf_iff_prefix, List.isPrefixOf_iff_prefix]
    constructor
    · exact prefix_of_mark (marks_inner mark hmark).1 (marks_inner other hother).2 hrest
    · exact fun h => h.trans (List.prefix_append _ _)
  simp [readMark, hfind]

/-- A bracket that opens is no beginning of another mark. -/
theorem readMark_opening {mark : String} (hmark : mark = "(" ∨ mark = "[") (rest : List Char) :
    readMark (mark.toList ++ rest) = some (mark.toList, rest) := by
  rcases hmark with rfl | rfl <;> rfl

/-! ## Numbers -/

/-- A decimal number, its type behind it if it has one. -/
inductive Numeric : List Char → Prop where
  | whole {digits : List Char} {type : String} (digit : ∀ c ∈ digits, c.isDigit)
      (some_digit : digits ≠ []) (typed : type ∈ numberTypes) : Numeric (digits ++ type.toList)
  | point {digits behind : List Char} {type : String} (digit : ∀ c ∈ digits, c.isDigit)
      (some_digit : digits ≠ []) (digit_behind : ∀ c ∈ behind, c.isDigit)
      (some_behind : behind ≠ []) (typed : type ∈ numberTypes) :
      Numeric (digits ++ '.' :: behind ++ type.toList)

theorem Numeric.start {cs : List Char} (h : Numeric cs) : ∃ c rest, cs = c :: rest ∧ c.isDigit := by
  cases h with
  | @whole digits type hdigits hne =>
    obtain ⟨c, digits, rfl⟩ := List.exists_cons_of_ne_nil hne
    exact ⟨c, _, rfl, hdigits c List.mem_cons_self⟩
  | @point digits behind type hdigits hne =>
    obtain ⟨c, digits, rfl⟩ := List.exists_cons_of_ne_nil hne
    exact ⟨c, _, rfl, hdigits c List.mem_cons_self⟩

theorem Numeric.one_line {cs : List Char} (h : Numeric cs) : '\n' ∉ cs := by
  have hdigits : ∀ {ds : List Char}, (∀ c ∈ ds, c.isDigit) → '\n' ∉ ds :=
    fun h hline => absurd (h _ hline) (by decide)
  have htypes : ∀ type ∈ numberTypes, '\n' ∉ type.toList := by decide +kernel
  cases h with
  | whole digit _ typed => simpa using ⟨hdigits digit, htypes _ typed⟩
  | point digit _ behind _ typed => simpa using ⟨hdigits digit, hdigits behind, htypes _ typed⟩

/-- A type goes on neither with the digits before it nor with a point. -/
theorem type_facts : ∀ type ∈ numberTypes, (∀ c ∈ type.toList, isWordChar c) ∧
    startsWith Char.isDigit type.toList = false ∧ startsWith (· = '.') type.toList = false := by
  simp only [← List.all_eq_true]
  decide +kernel

theorem startsWith_append {p : Char → Bool} {cs rest : List Char} (hcs : startsWith p cs = false)
    (hrest : startsWith p rest = false) : startsWith p (cs ++ rest) = false := by
  cases cs with
  | nil => exact hrest
  | cons c cs => exact hcs

/-- What a number ends with is read as it was written. -/
theorem readNumber_of_fraction {cs whole fraction rest : List Char} {type : String}
    (hwhole : cs.takeWhile Char.isDigit = whole)
    (hfraction : readFraction (cs.dropWhile Char.isDigit) = (fraction, type.toList ++ rest))
    (htype : type ∈ numberTypes) (hrest : Boundary rest) :
    readNumber cs = some (whole ++ fraction ++ type.toList, rest) := by
  obtain ⟨htake, hdrop⟩ :=
    Text.takeWhile_run (type_facts type htype).1 (hrest.not_startsWith (p := isWordChar) (by decide))
  have hfree : startsWith (fun c => isPrefixed c || c = '.' || c = '+' || c = '-') rest = false :=
    hrest.not_startsWith (by decide)
  simp [readNumber, hwhole, hfraction, htake, hdrop, htype, hfree]

theorem readFraction_none {cs : List Char} (h : startsWith (· = '.') cs = false) :
    readFraction cs = ([], cs) := by
  unfold readFraction
  split
  · simp [startsWith] at h
  · rfl

theorem readFraction_append {behind rest : List Char} (hbehind : ∀ c ∈ behind, c.isDigit)
    (hne : behind ≠ []) (hrest : startsWith Char.isDigit rest = false) :
    readFraction ('.' :: behind ++ rest) = ('.' :: behind, rest) := by
  obtain ⟨c, cs, rfl⟩ := List.exists_cons_of_ne_nil hne
  obtain ⟨htake, hdrop⟩ := Text.takeWhile_run hbehind hrest
  rw [List.cons_append] at htake hdrop
  rw [List.cons_append, List.cons_append, readFraction, if_pos (hbehind c List.mem_cons_self),
    htake, hdrop]

theorem readNumber_append {number rest : List Char} (h : Numeric number) (hrest : Boundary rest) :
    readNumber (number ++ rest) = some (number, rest) := by
  cases h with
  | @whole digits type hdigits hne htype =>
    obtain ⟨-, hdigit, hpoint⟩ := type_facts type htype
    have hstart := startsWith_append hdigit (hrest.not_startsWith (by decide))
    obtain ⟨htake, hdrop⟩ := Text.takeWhile_run hdigits hstart
    have hnone : readFraction ((digits ++ (type.toList ++ rest)).dropWhile Char.isDigit) =
        ([], type.toList ++ rest) := by
      rw [hdrop]
      exact readFraction_none (startsWith_append hpoint (hrest.not_startsWith (by decide)))
    simpa using readNumber_of_fraction htake hnone htype hrest
  | @point digits behind type hdigits hne hbehind hsome htype =>
    obtain ⟨-, hdigit, -⟩ := type_facts type htype
    have hstart := startsWith_append hdigit (hrest.not_startsWith (by decide))
    have hfraction := readFraction_append hbehind hsome hstart
    have hstop : startsWith Char.isDigit ('.' :: behind ++ (type.toList ++ rest)) = false := rfl
    obtain ⟨htake, hdrop⟩ := Text.takeWhile_run hdigits hstop
    rw [← hdrop] at hfraction
    simpa using readNumber_of_fraction htake hfraction htype hrest

/-! ## Tokens -/

/-- A token is read as it was written before every boundary. -/
structure Legible (t : Token) : Prop where
  /-- It starts with what is neither skipped nor the beginning of a comment. -/
  starts : ∃ c cs, t.chars = c :: cs ∧ isSpace c = false ∧ c ≠ '/'
  reads : ∀ rest, Boundary rest → lexToken (t.chars ++ rest) = some (t, rest)
  /-- It breaks no line. -/
  one_line : '\n' ∉ t.chars

theorem one_line_of_wordlike {cs : List Char} (h : Wordlike cs) : '\n' ∉ cs := by
  intro hline
  exact absurd (h.chars '\n' hline) (by decide)

theorem legible_word {word : String} (h : Wordlike word.toList) : Legible (.code word) where
  starts := by
    obtain ⟨c, cs, hcs⟩ := List.exists_cons_of_ne_nil h.ne_nil
    have hstart : isWordStart c := by simpa [hcs, startsWith] using h.start
    exact ⟨c, cs, hcs, not_isSpace (by decide) hstart, ne_of_apart hstart (by decide)⟩
  reads := fun rest hrest => by simpa [Token.chars] using lexToken_word h hrest
  one_line := one_line_of_wordlike h

/-- A keyword that is a name stands behind a raw marker and is read with it. -/
theorem legible_identifier {word : String} (h : Identifier word) : Legible (.code word) := by
  obtain ⟨bare, hbare, rfl⟩ := h
  have hword := wordlike_of_shape hbare.1
  split
  · refine ⟨⟨'r', '#' :: bare.toList, by simp [Token.chars], by decide, by decide⟩, ?_,
      by simpa [Token.chars] using one_line_of_wordlike hword⟩
    intro rest hrest
    have hread := readWord_append hword hrest
    obtain ⟨hlone, hpath⟩ : bare ≠ "_" ∧ bare ∉ pathKeywords := hbare.2
    have hmarker : startsWith isPrefixed ('#' :: (bare.toList ++ rest)) := by rfl
    have hspelling : "r#" ++ bare = String.ofList ('r' :: '#' :: bare.toList) := by
      rw [← String.toList_inj]
      simp
    simp [Token.chars, lexToken, hmarker, lexRaw, hread, hlone, hpath, codeOf, hspelling]
  · exact legible_word hword

theorem legible_lifetime : Legible (.code "'_") where
  starts := ⟨'\x27', ['_'], rfl, by decide, by decide⟩
  reads := by
    intro rest hrest
    have hline : Wordlike ['_'] := ⟨rfl, List.forall_mem_singleton.2 rfl⟩
    have hread : readWord ('_' :: rest) = some (['_'], rest) := readWord_append hline hrest
    simp [Token.chars, lexToken, hread, codeOf]
  one_line := by decide

theorem legible_number {number : String} (h : Numeric number.toList) : Legible (.code number) := by
  obtain ⟨c, cs, hcs, hc⟩ := h.start
  refine ⟨⟨c, cs, hcs, not_isSpace (by decide) hc, ne_of_apart hc (by decide)⟩, ?_, h.one_line⟩
  intro rest hrest
  have hread := readNumber_append h hrest
  have hquote := ne_of_apart hc (d := '"') (by decide)
  have hlifetime := ne_of_apart hc (d := '\x27') (by decide)
  have hraw := ne_of_apart hc (d := 'r') (by decide)
  have hline := ne_of_apart hc (d := '_') (by decide)
  have hletter : c.isAlpha = false := by
    by_contra halpha
    exact Text.not_isDigit_of_isAlpha (by simpa using halpha) hc
  have hspelling : String.ofList number.toList = number := String.ofList_toList
  rw [hcs] at hread hspelling
  rw [Token.chars, hcs]
  rw [List.cons_append] at hread ⊢
  simp [lexToken, hquote, hlifetime, hraw, isWordStart, hletter, hline, hc, hread, codeOf, hspelling]

/-- What a mark starts with starts no other token. -/
theorem marks_start : ∀ mark ∈ marks, ∃ c ∈ mark.toList.head?, isSpace c = false ∧
    c ≠ '"' ∧ c ≠ '\x27' ∧ c ≠ 'r' ∧ isWordStart c = false ∧ c.isDigit = false := by
  have hall : ∀ mark ∈ marks, mark.toList.head?.any fun c => isSpace c = false ∧
      c ≠ '"' ∧ c ≠ '\x27' ∧ c ≠ 'r' ∧ isWordStart c = false ∧ c.isDigit = false := by
    decide +kernel
  simpa only [Option.mem_def, Option.any_eq_true, decide_eq_true_eq] using hall

/-- A mark is read as such wherever it is the first one that fits. -/
theorem lexToken_mark {mark : String} (hmark : mark ∈ marks) {rest : List Char}
    (hread : readMark (mark.toList ++ rest) = some (mark.toList, rest)) :
    lexToken (mark.toList ++ rest) = some (.code mark, rest) := by
  obtain ⟨c, hc, -, hquote, hlifetime, hraw, hword, hdigit⟩ := marks_start mark hmark
  obtain ⟨cs, hcs⟩ := List.head?_eq_some_iff.1 hc
  have hspelling : String.ofList mark.toList = mark := String.ofList_toList
  rw [hcs] at hread hspelling ⊢
  rw [List.cons_append] at hread ⊢
  simp [lexToken, hquote, hlifetime, hraw, hword, hdigit, hread, codeOf, hspelling]

theorem legible_mark {mark : String} (hmark : mark ∈ marks) (hslash : mark.toList.head? ≠ some '/') :
    Legible (.code mark) where
  starts := by
    obtain ⟨c, hc, hspace, -⟩ := marks_start mark hmark
    obtain ⟨cs, hcs⟩ := List.head?_eq_some_iff.1 hc
    refine ⟨c, cs, hcs, hspace, ?_⟩
    rintro rfl
    exact hslash hc
  reads := fun _ hrest => lexToken_mark hmark (readMark_append hmark hrest)
  one_line := by
    have hall : ∀ mark ∈ marks, '\n' ∉ mark.toList := by decide +kernel
    exact hall mark hmark

theorem legible_text (value : String) : Legible (.text value) where
  starts := ⟨'"', _, rfl, by decide, by decide⟩
  reads := by
    intro rest hrest
    have hread := readText_escapeChars value.toList rest
    have huntyped : startsWith isWordChar rest = false := hrest.not_startsWith (by decide)
    simp [Token.chars, quoted, lexToken, hread, untyped, huntyped]
  one_line := by simpa [Token.chars, quoted] using line_notMem_escapeChars value.toList

theorem legible_rawText {value : String} (hquote : '"' ∉ value.toList)
    (hreturn : '\r' ∉ value.toList) (hline : '\n' ∉ value.toList) : Legible (.rawText value) where
  starts := ⟨'r', _, rfl, by decide, by decide⟩
  reads := by
    intro rest hrest
    have hread := readRaw_append hquote hreturn rest
    have huntyped : startsWith isWordChar rest = false := hrest.not_startsWith (by decide)
    have hbegins : startsWith isPrefixed ('"' :: (value.toList ++ '"' :: rest)) := by rfl
    simp [Token.chars, lexToken, hbegins, lexRaw, hread, untyped, huntyped]
  one_line := by simpa [Token.chars] using hline

/-- Behind an opening bracket anything may follow. -/
theorem lexToken_opening {t : Token} (h : t.opensTight) (rest : List Char) :
    lexToken (t.chars ++ rest) = some (t, rest) := by
  have hbracket : t = .code "(" ∨ t = .code "[" := by simpa [Token.opensTight] using h
  rcases hbracket with rfl | rfl
  · exact lexToken_mark (by decide) (readMark_opening (.inl rfl) rest)
  · exact lexToken_mark (by decide) (readMark_opening (.inr rfl) rest)

/-! ## Lists of tokens -/

theorem length_skip {inside : Bool} {cs rest : List Char} (h : skip inside cs = some rest) :
    rest.length ≤ cs.length := by
  fun_induction skip inside cs with
  | case1 => simp_all
  | case2 c cs ih => exact (ih h).trans (by simp)
  | case3 => cases h
  | case4 cs _ ih => exact (ih h).trans (by simp only [List.length_cons]; omega)
  | case5 => cases h
  | case6 c cs _ _ _ ih => exact (ih h).trans (by simp)
  | case7 => simp_all

theorem skip_token {c : Char} (hspace : isSpace c = false) (hslash : c ≠ '/') (cs : List Char) :
    skip false (c :: cs) = some (c :: cs) := by
  simp [skip, hspace, hslash]

theorem lex_space (cs : List Char) : lex (' ' :: cs) = lex cs := rfl

theorem lex_line (cs : List Char) : lex ('\n' :: cs) = lex cs := rfl

theorem lex_cons {t : Token} (ht : Legible t) {rest : List Char}
    (hrest : Boundary rest ∨ t.opensTight) : lex (t.chars ++ rest) = (lex rest).map (t :: ·) := by
  have hread : lexToken (t.chars ++ rest) = some (t, rest) :=
    hrest.elim (ht.reads rest) fun hopens => lexToken_opening hopens rest
  obtain ⟨c, cs, hcs, hspace, hslash⟩ := ht.starts
  rw [hcs] at hread ⊢
  rw [lex, List.cons_append, skip_token hspace hslash, Option.bind_some, lexFrom]
  rw [List.cons_append] at hread
  rw [hread]
  cases hskip : skip false rest with
  | none => simp [lex, hskip]
  | some behind =>
    have hlength := length_skip hskip
    have hshorter : behind.length < (c :: (cs ++ rest)).length := by
      rw [List.length_cons, List.length_append]
      omega
    simp only [List.isEmpty_cons, Bool.false_eq_true, if_false, hskip, if_pos hshorter, lex,
      Option.bind_some]

theorem render_cons (t : Token) (ts : List Token) :
    ∃ behind, Token.render (t :: ts) = t.chars ++ behind := by
  cases ts with
  | nil => exact ⟨[], (List.append_nil _).symm⟩
  | cons u ts => exact ⟨Token.gap t u ++ Token.render (u :: ts), List.append_assoc _ _ _⟩

theorem line_notMem_render {ts : List Token} (h : ∀ t ∈ ts, Legible t) : '\n' ∉ Token.render ts := by
  fun_induction Token.render ts with
  | case1 => simp
  | case2 t => exact (h t List.mem_cons_self).one_line
  | case3 a b ts ih =>
    obtain ⟨ha, hts⟩ := List.forall_mem_cons.1 h
    have hgap : '\n' ∉ Token.gap a b := by
      unfold Token.gap
      split <;> simp
    simp [ha.one_line, hgap, ih hts]

/-- What stands between two tokens ends the first and is skipped. -/
theorem lex_gap {a b : Token} (ha : Legible a) (ts : List Token) (rest : List Char) :
    lex (a.chars ++ Token.gap a b ++ (Token.render (b :: ts) ++ rest)) =
      (lex (Token.render (b :: ts) ++ rest)).map (a :: ·) := by
  rw [List.append_assoc, Token.gap]
  split
  · next htight =>
    rw [List.nil_append]
    refine lex_cons ha ?_
    rcases Bool.or_eq_true_iff.1 htight with hopens | hcloses
    · exact .inr hopens
    · obtain ⟨behind, hbehind⟩ := render_cons b ts
      have hbracket : b = .code ")" ∨ b = .code "]" := by
        simpa [Token.closesTight] using hcloses
      left
      rw [hbehind]
      rcases hbracket with rfl | rfl <;> simp [Token.chars, Boundary]
  · rw [lex_cons ha (.inl (by simp [Boundary])), List.singleton_append, lex_space]

/-- **Written tokens are read back**, whatever stands behind them. -/
theorem lex_render {ts : List Token} (h : ∀ t ∈ ts, Legible t) {rest : List Char}
    (hrest : Boundary rest) : lex (Token.render ts ++ rest) = (lex rest).map (ts ++ ·) := by
  fun_induction Token.render ts with
  | case1 => simp
  | case2 t => simpa using lex_cons (h t List.mem_cons_self) (.inl hrest)
  | case3 a b ts ih =>
    obtain ⟨ha, hts⟩ := List.forall_mem_cons.1 h
    rw [List.append_assoc, lex_gap ha, ih hts, Option.map_map]
    rfl

end MetricFacade.Rust.Lexer
