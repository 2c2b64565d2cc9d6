import Mathlib.Data.List.Basic
import Mathlib.Tactic.SplitIfs

/-!
# Spans

A reader takes characters as long as they satisfy a predicate. Where what follows a text does not
start with such a character, the text is scanned alike with and without it.
-/
namespace MetricFacade.Text

variable {p : Char → Bool} {rest : List Char}

theorem takeWhile_stop (hrest : rest.head?.any p = false) :
    rest.takeWhile p = [] ∧ rest.dropWhile p = rest := by
  cases rest with
  | nil => simp
  | cons c rest =>
    have hc : p c = false := hrest
    simp [hc]

/-- A span ends where it was written to end. -/
theorem takeWhile_run {run : List Char} (hrun : ∀ c ∈ run, p c) (hrest : rest.head?.any p = false) :
    (run ++ rest).takeWhile p = run ∧ (run ++ rest).dropWhile p = rest := by
  obtain ⟨htake, hdrop⟩ := takeWhile_stop hrest
  rw [List.takeWhile_append_of_pos hrun, List.dropWhile_append_of_pos hrun, htake, hdrop,
    List.append_nil]
  exact ⟨rfl, rfl⟩

theorem takeWhile_append_stop (cs : List Char) (hrest : rest.head?.any p = false) :
    (cs ++ rest).takeWhile p = cs.takeWhile p := by
  rw [List.takeWhile_append, (takeWhile_stop hrest).1, List.append_nil]
  split_ifs with hall
  · exact ((List.takeWhile_prefix p).eq_of_length hall).symm
  · rfl

theorem dropWhile_append_stop (cs : List Char) (hrest : rest.head?.any p = false) :
    (cs ++ rest).dropWhile p = cs.dropWhile p ++ rest := by
  have hwhole := List.takeWhile_append_dropWhile (p := p) (l := cs ++ rest)
  rw [takeWhile_append_stop cs hrest] at hwhole
  refine List.append_cancel_left (hwhole.trans ?_)
  rw [← List.append_assoc, List.takeWhile_append_dropWhile]

end MetricFacade.Text
