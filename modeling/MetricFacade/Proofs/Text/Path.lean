import MetricFacade.Metric.Declaration

/-!
# Namespaces and their segments

Segments without colons can be read back from the namespace they make, so different lists
of such segments make different namespaces.

Results:

* `segments_joinPath`: reading a namespace back.
* `joinPath_injective`: one namespace, one list of segments.
* `segments_injective`: whatever is in a namespace, its segments tell all of it.
-/
namespace MetricFacade.Text

/-- A segment has no colon and at least one character. -/
def PlainSegment (s : String) : Prop :=
  s ≠ "" ∧ ':' ∉ s.toList

theorem splitPathChars_separator (rest : List Char) :
    splitPathChars (':' :: ':' :: rest) = [] :: splitPathChars rest := rfl

theorem splitPathChars_cons {c : Char} (hc : c ≠ ':') {cs segment : List Char}
    {segments : List (List Char)} (h : splitPathChars cs = segment :: segments) :
    splitPathChars (c :: cs) = (c :: segment) :: segments := by
  rw [splitPathChars, h]
  intro _ hcolon
  exact absurd hcolon hc

theorem splitPathChars_plain {cs : List Char} (h : ':' ∉ cs) : splitPathChars cs = [cs] := by
  induction cs with
  | nil => rfl
  | cons c cs ih =>
    rw [List.mem_cons, not_or] at h
    exact splitPathChars_cons (Ne.symm h.1) (ih h.2)

theorem splitPathChars_append {cs : List Char} (h : ':' ∉ cs) (rest : List Char) :
    splitPathChars (cs ++ ':' :: ':' :: rest) = cs :: splitPathChars rest := by
  induction cs with
  | nil => exact splitPathChars_separator rest
  | cons c cs ih =>
    rw [List.mem_cons, not_or] at h
    exact splitPathChars_cons (Ne.symm h.1) (ih h.2)

theorem segments_joinPath {path : List String} (hne : path ≠ [])
    (h : ∀ s ∈ path, PlainSegment s) : segments (joinPath path) = path := by
  match path with
  | [] => exact absurd rfl hne
  | [s] =>
    rw [segments, joinPath, String.intercalate_singleton,
      splitPathChars_plain (h s (by simp)).2]
    simp
  | s :: t :: rest =>
    have hbelow : segments (joinPath (t :: rest)) = t :: rest :=
      segments_joinPath (by simp) fun u hu => h u (List.mem_cons_of_mem s hu)
    rw [segments, joinPath] at hbelow ⊢
    rw [String.intercalate_cons_cons, String.append_assoc, String.toList_append,
      String.toList_append]
    have hsplit := splitPathChars_append (h s (by simp)).2 ("::".intercalate (t :: rest)).toList
    rw [show "::".toList = [':', ':'] from rfl]
    simp only [List.cons_append, List.nil_append]
    rw [hsplit, List.map_cons, hbelow, String.ofList_toList]

theorem joinPath_eq_empty {path : List String} (h : ∀ s ∈ path, PlainSegment s)
    (hempty : joinPath path = "") : path = [] := by
  match path with
  | [] => rfl
  | s :: rest =>
    have hread := segments_joinPath (by simp) h
    rw [hempty] at hread
    have hs : s = "" := by
      have hfirst := congrArg List.head? hread
      simpa [segments, splitPathChars] using hfirst.symm
    exact absurd hs (h s (by simp)).1

theorem joinPath_injective {p q : List String} (hp : ∀ s ∈ p, PlainSegment s)
    (hq : ∀ s ∈ q, PlainSegment s) (h : joinPath p = joinPath q) : p = q := by
  by_cases hpe : p = []
  · subst hpe
    exact (joinPath_eq_empty hq h.symm).symm
  · by_cases hqe : q = []
    · subst hqe
      exact joinPath_eq_empty hp h
    · rw [← segments_joinPath hpe hp, h, segments_joinPath hqe hq]

theorem splitPathChars_ne_nil (cs : List Char) : splitPathChars cs ≠ [] := by
  fun_cases splitPathChars cs with
  | case1 | case2 | case3 => simp
  | case4 => simp

theorem segments_ne_nil (scope : String) : segments scope ≠ [] :=
  mt List.map_eq_nil_iff.1 (splitPathChars_ne_nil scope.toList)

/-- With the marks put back, nothing of a namespace is lost. -/
theorem intercalate_splitPathChars (cs : List Char) :
    [':', ':'].intercalate (splitPathChars cs) = cs := by
  fun_induction splitPathChars cs with
  | case1 => rfl
  | case2 rest ih =>
    rw [List.intercalate_cons_of_ne_nil (splitPathChars_ne_nil rest), ih]
    rfl
  | case3 c rest _ hnone _ => exact absurd hnone (splitPathChars_ne_nil rest)
  | case4 c rest _ segment segments hsome ih =>
    rw [hsome] at ih
    rw [List.intercalate_cons_cons_left, ih]

theorem segments_injective {s t : String} (h : segments s = segments t) : s = t := by
  have hchars : splitPathChars s.toList = splitPathChars t.toList :=
    (List.map_inj_right fun _ _ => String.ofList_inj.1).1 h
  have hall := congrArg [':', ':'].intercalate hchars
  rw [intercalate_splitPathChars, intercalate_splitPathChars] at hall
  exact String.toList_inj.1 hall

end MetricFacade.Text
