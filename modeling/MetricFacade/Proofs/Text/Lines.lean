import Mathlib.Algebra.GroupWithZero.Nat
import MetricFacade.Proofs.Number.Notation
import MetricFacade.Proofs.Text.Path
import MetricFacade.Proofs.Text.SnakeCase

/-!
# Texts on lines

Whoever reads a text line by line takes every line break for the end of a line, also one that
came with a name that the text quotes. So texts that are printed one to a line are read as that
many lines, and one more for each line break in them.

Results:

* `lines`, `breaks`: the lines of a text, and the line breaks in it.
* `length_lines_ended`, `lines_ended`: how texts that are printed one to a line are read.
* `breaks_snakeCase`: writing a text in snake case drops its line breaks.
-/
namespace MetricFacade.Text

/-! ## Line breaks -/

/-- How many line breaks a text holds. -/
def breaks (s : String) : Nat :=
  s.toList.count '\n'

@[simp]
theorem breaks_append (s t : String) : breaks (s ++ t) = breaks s + breaks t := by
  simp [breaks]

theorem breaks_append_eq_zero {s t : String} (hs : breaks s = 0) (ht : breaks t = 0) :
    breaks (s ++ t) = 0 := by
  rw [breaks_append, hs, ht]

theorem breaks_eq_zero {s : String} : breaks s = 0 ↔ '\n' ∉ s.toList :=
  List.count_eq_zero

/-- For texts that are written out: the kernel takes a literal for its characters. -/
theorem breaks_ofList {cs : List Char} (h : '\n' ∉ cs) : breaks (String.ofList cs) = 0 := by
  rw [breaks_eq_zero, String.toList_ofList]
  exact h

theorem count_intercalate {sep : List Char} (h : '\n' ∉ sep) (parts : List (List Char)) :
    (sep.intercalate parts).count '\n' = (parts.map (·.count '\n')).sum := by
  induction parts with
  | nil => rfl
  | cons part rest ih =>
    cases rest with
    | nil => simp
    | cons next rest =>
      rw [List.intercalate_cons_cons, List.count_append, List.count_append, ih,
        List.count_eq_zero.2 h, Nat.add_zero]
      rfl

theorem breaks_intercalate {sep : String} (h : breaks sep = 0) (texts : List String) :
    breaks (sep.intercalate texts) = (texts.map breaks).sum := by
  rw [breaks, String.toList_intercalate, count_intercalate (breaks_eq_zero.1 h), List.map_map]
  rfl

@[simp]
theorem breaks_toString (n : Nat) : breaks (toString n) = 0 := by
  rw [breaks_eq_zero, Nat.toString_eq_ofList_toDigits, String.toList_ofList]
  intro h
  have hdigit := (Number.allDigits_toDigits n).digit _ h
  cases hdigit

theorem sum_breaks_eq_zero {texts : List String} :
    (texts.map breaks).sum = 0 ↔ ∀ s ∈ texts, breaks s = 0 := by
  rw [List.sum_eq_zero_iff_forall_eq_nat, List.forall_mem_map]

/-! ## Lines -/

/-- The lines of a text. The last one may go without a line break at its end. -/
def splitLines : List Char → List (List Char)
  | [] => []
  | '\n' :: rest => [] :: splitLines rest
  | c :: rest =>
    match splitLines rest with
    | [] => [[c]]
    | line :: more => (c :: line) :: more

def lines (s : String) : List String :=
  (splitLines s.toList).map String.ofList

theorem splitLines_cons {c : Char} (hc : c ≠ '\n') (cs : List Char) :
    splitLines (c :: cs) =
      match splitLines cs with
      | [] => [[c]]
      | line :: more => (c :: line) :: more := by
  rw [splitLines]
  exact hc

theorem splitLines_append {line : List Char} (h : '\n' ∉ line) (rest : List Char) :
    splitLines (line ++ '\n' :: rest) = line :: splitLines rest := by
  induction line with
  | nil => rfl
  | cons c cs ih =>
    rw [List.mem_cons, not_or] at h
    rw [List.cons_append, splitLines_cons (Ne.symm h.1), ih h.2]

/-- Each line break ends a line. -/
theorem length_splitLines_append (cs rest : List Char) :
    (splitLines (cs ++ '\n' :: rest)).length = cs.count '\n' + 1 + (splitLines rest).length := by
  induction cs with
  | nil =>
    show (splitLines rest).length + 1 = _
    rw [List.count_nil]
    omega
  | cons c cs ih =>
    rw [List.cons_append]
    by_cases hc : c = '\n'
    · subst hc
      show (splitLines (cs ++ '\n' :: rest)).length + 1 = _
      rw [ih, List.count_cons_self]
      omega
    · rw [splitLines_cons hc, List.count_cons_of_ne hc]
      split
      · rename_i hnil
        rw [hnil] at ih
        rw [List.length_nil] at ih
        omega
      · rename_i hcons
        rw [hcons] at ih
        exact ih

/-- A line break at the very end adds no line. -/
theorem splitLines_concat {cs : List Char} (hne : cs ≠ []) (h : cs.getLast? ≠ some '\n') :
    splitLines (cs ++ ['\n']) = splitLines cs := by
  induction cs with
  | nil => exact absurd rfl hne
  | cons c cs ih =>
    rw [List.cons_append]
    cases cs with
    | nil =>
      have hc : c ≠ '\n' := fun hc => h (by rw [hc]; rfl)
      rw [List.nil_append, splitLines_cons hc, splitLines_cons hc]
      rfl
    | cons d cs =>
      rw [List.getLast?_cons_cons] at h
      have hrest := ih (List.cons_ne_nil d cs) h
      by_cases hc : c = '\n'
      · subst hc
        exact congrArg (List.cons []) hrest
      · rw [splitLines_cons hc, splitLines_cons hc, hrest]

/-- Texts that are printed one to a line. -/
def ended (texts : List String) : String :=
  String.join (texts.map fun s => s ++ "\n")

theorem ended_cons (text : String) (rest : List String) :
    ended (text :: rest) = text ++ "\n" ++ ended rest := by
  rw [ended, List.map_cons, String.join_cons]
  rfl

theorem toList_ended (text : String) (rest : List String) :
    (ended (text :: rest)).toList = text.toList ++ '\n' :: (ended rest).toList := by
  simp [ended_cons]

theorem length_lines_ended (texts : List String) :
    (lines (ended texts)).length = texts.length + (texts.map breaks).sum := by
  rw [lines, List.length_map]
  induction texts with
  | nil => rfl
  | cons text rest ih =>
    rw [toList_ended, length_splitLines_append, ih, List.map_cons, List.sum_cons, List.length_cons,
      breaks]
    omega

theorem lines_ended {texts : List String} (h : ∀ s ∈ texts, breaks s = 0) :
    lines (ended texts) = texts := by
  unfold lines
  induction texts with
  | nil => rfl
  | cons text rest ih =>
    have hline := breaks_eq_zero.1 (h text List.mem_cons_self)
    rw [toList_ended, splitLines_append hline, List.map_cons,
      ih fun s hs => h s (List.mem_cons_of_mem text hs), String.ofList_toList]

theorem lines_concat {s : String} (hne : s ≠ "") (h : s.toList.getLast? ≠ some '\n') :
    lines (s ++ "\n") = lines s := by
  unfold lines
  rw [String.toList_append]
  have hchars : s.toList ≠ [] := fun hnil => hne (String.toList_eq_nil_iff.1 hnil)
  exact congrArg _ (splitLines_concat hchars h)

/-! ## What holds no line break -/

theorem breaks_segments (scope : String) :
    ((segments scope).map breaks).sum = breaks scope := by
  have hjoin : "::".intercalate (segments scope) = scope := by
    rw [← String.toList_inj, String.toList_intercalate, segments, List.map_map]
    have hid : (String.toList ∘ String.ofList) = id := funext fun cs => String.toList_ofList
    rw [hid, List.map_id]
    exact intercalate_splitPathChars _
  conv_rhs => rw [← hjoin]
  rw [breaks_intercalate (by decide)]

/-- A line break is no part of a word. -/
theorem breaks_snakeCase (s : String) : breaks (snakeCase s) = 0 :=
  breaks_eq_zero.2 (mark_notMem_snakeCase (by decide) (by decide) s)

end MetricFacade.Text
