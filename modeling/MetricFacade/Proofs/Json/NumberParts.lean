import MetricFacade.Json.Reader
import MetricFacade.Proofs.Number.Notation
import MetricFacade.Proofs.Text.Span

/-!
# The parts of a number

Where a number ends is not marked: it goes on as long as it can. So what is read of one depends on
what stands behind it only if that could be more of the number.

Results:

* `Inverse`: a reader of numbers that undoes their writer.
* `splitNumber?_eq_some_iff`: what the parts of a number are.
* `splitNumberNode?_append`: a number is read alike whatever stands behind it.
* `splitNumber?_of_parts`: parts written one behind the other are found.
-/
namespace MetricFacade.Json

open Number

/-! ## Readers of numbers -/

/-- Every number is taken for what was written. -/
structure Inverse (number : Bool → NumberParts → Node) : Prop where
  int : ∀ n : Int, splitNumberNode? number (toString n).toList = some (.int n, [])
  double : ∀ x : Float, x.isFinite → splitNumberNode? number (switching x) = some (.double x, [])

/-! ## What stands behind a number -/

/-- Nothing that a number could go on with. -/
def Stops (rest : List Char) : Prop :=
  ∀ c ∈ rest.head?, isDigit c = false ∧ c ≠ '.' ∧ c ≠ 'e' ∧ c ≠ 'E'

theorem stops_cons {c : Char} {rest : List Char}
    (h : isDigit c = false ∧ c ≠ '.' ∧ c ≠ 'e' ∧ c ≠ 'E') : Stops (c :: rest) := by
  simpa [Stops] using h

theorem Stops.not_digit {rest : List Char} (h : Stops rest) : rest.head?.any isDigit = false := by
  cases rest with
  | nil => rfl
  | cons c rest => exact (h c rfl).1

variable {cs rest tail : List Char}

theorem splitFraction?_of_ne (h : cs.head? ≠ some '.') : splitFraction? cs = some (none, cs) := by
  unfold splitFraction?
  split
  · exact absurd rfl h
  · rfl

theorem splitPower?_of_ne (h : cs.head? ≠ some 'e' ∧ cs.head? ≠ some 'E') :
    splitPower? cs = some (none, cs) := by
  unfold splitPower?
  split
  · exact absurd rfl h.1
  · exact absurd rfl h.2
  · rfl

theorem Stops.head?_ne (hstop : Stops rest) {c : Char} (hc : c = '.' ∨ c = 'e' ∨ c = 'E')
    (h : cs.head? ≠ some c) : (cs ++ rest).head? ≠ some c := by
  cases cs with
  | nil =>
    intro hhead
    obtain ⟨-, hpoint, hlower, hupper⟩ := hstop c hhead
    rcases hc with rfl | rfl | rfl <;> contradiction
  | cons d cs => exact h

theorem splitFraction?_append {fraction : Option (List Char)} (hstop : Stops rest)
    (h : splitFraction? cs = some (fraction, tail)) :
    splitFraction? (cs ++ rest) = some (fraction, tail ++ rest) := by
  by_cases hpoint : cs.head? = some '.'
  · obtain ⟨cs, rfl⟩ := List.head?_eq_some_iff.1 hpoint
    rw [splitFraction?] at h
    split_ifs at h with hsome
    cases h
    simp [splitFraction?, Text.takeWhile_append_stop _ hstop.not_digit,
      Text.dropWhile_append_stop _ hstop.not_digit, hsome]
  · rw [splitFraction?_of_ne hpoint] at h
    cases h
    exact splitFraction?_of_ne (hstop.head?_ne (.inl rfl) hpoint)

theorem splitSign_of_ne (h : cs.head? ≠ some '-' ∧ cs.head? ≠ some '+') :
    splitSign cs = (false, cs) := by
  unfold splitSign
  split
  · exact absurd rfl h.1
  · exact absurd rfl h.2
  · rfl

theorem splitSign_append (hne : cs ≠ []) :
    splitSign (cs ++ rest) = ((splitSign cs).1, (splitSign cs).2 ++ rest) := by
  obtain ⟨c, cs, rfl⟩ := List.exists_cons_of_ne_nil hne
  by_cases hsign : c = '-' ∨ c = '+'
  · rcases hsign with rfl | rfl <;> rfl
  · rw [not_or] at hsign
    rw [splitSign_of_ne (by simpa using hsign), splitSign_of_ne (by simpa using hsign)]

theorem splitExponent?_append {n : Int} (hstop : Stops rest)
    (h : splitExponent? cs = some (n, tail)) : splitExponent? (cs ++ rest) = some (n, tail ++ rest) := by
  have hne : cs ≠ [] := by
    rintro rfl
    cases h
  dsimp only [splitExponent?] at h ⊢
  rw [splitSign_append hne]
  dsimp only
  rw [Text.takeWhile_append_stop _ hstop.not_digit, Text.dropWhile_append_stop _ hstop.not_digit]
  split_ifs at h ⊢ with hdigits hsign <;>
  · cases h
    rfl

theorem splitPower?_append {n : Option Int} (hstop : Stops rest)
    (h : splitPower? cs = some (n, tail)) : splitPower? (cs ++ rest) = some (n, tail ++ rest) := by
  by_cases hletter : cs.head? = some 'e' ∨ cs.head? = some 'E'
  · obtain ⟨cs, rfl | rfl⟩ : ∃ cs', cs = 'e' :: cs' ∨ cs = 'E' :: cs' := by
      rcases hletter with hlower | hupper
      · exact (List.head?_eq_some_iff.1 hlower).imp fun _ => .inl
      · exact (List.head?_eq_some_iff.1 hupper).imp fun _ => .inr
    all_goals
      obtain ⟨⟨n, tail⟩, hexponent, hparts⟩ := Option.map_eq_some_iff.1 h
      cases hparts
      rw [List.cons_append, splitPower?, splitExponent?_append hstop hexponent]
      rfl
  · rw [not_or] at hletter
    rw [splitPower?_of_ne hletter] at h
    cases h
    exact splitPower?_of_ne ⟨hstop.head?_ne (.inr (.inl rfl)) hletter.1,
      hstop.head?_ne (.inr (.inr rfl)) hletter.2⟩

/-- A zero in front stands alone. -/
def NoLeadingZero (ds : List Char) : Prop :=
  ds.head? = some '0' → ds.length = 1

theorem splitNumber?_eq_some_iff {p : NumberParts} :
    splitNumber? cs = some (p, tail) ↔
      (p.whole = cs.takeWhile isDigit ∧ p.whole ≠ [] ∧ NoLeadingZero p.whole) ∧
        ∃ behind, splitFraction? (cs.dropWhile isDigit) = some (p.fraction, behind) ∧
          splitPower? behind = some (p.exponent, tail) := by
  obtain ⟨whole, fraction, exponent⟩ := p
  dsimp only [splitNumber?, NoLeadingZero]
  by_cases hwhole : (cs.takeWhile isDigit).isEmpty ∨
      ((cs.takeWhile isDigit).head? = some '0' ∧ (cs.takeWhile isDigit).length ≠ 1)
  · rw [if_pos hwhole]
    refine iff_of_false (by simp) ?_
    rintro ⟨⟨rfl, hne, hzero⟩, -⟩
    rcases hwhole with hempty | ⟨hhead, hlength⟩
    · exact hne (List.isEmpty_iff.1 hempty)
    · exact hlength (hzero hhead)
  · have hplain : cs.takeWhile isDigit ≠ [] ∧
        ((cs.takeWhile isDigit).head? = some '0' → (cs.takeWhile isDigit).length = 1) := by
      simpa [not_or] using hwhole
    rw [if_neg hwhole]
    simp only [Option.bind_eq_bind, Option.bind_eq_some_iff]
    constructor
    · rintro ⟨⟨fraction', behind⟩, hfraction, ⟨exponent', behind'⟩, hpower, hparts⟩
      cases hparts
      exact ⟨⟨rfl, hplain⟩, behind, hfraction, hpower⟩
    · rintro ⟨⟨rfl, -⟩, behind, hfraction, hpower⟩
      exact ⟨_, hfraction, _, hpower, rfl⟩

theorem splitNumber?_start {p : NumberParts} (h : splitNumber? cs = some (p, tail)) :
    ∃ c cs', cs = c :: cs' ∧ isDigit c := by
  obtain ⟨⟨hwhole, hne, -⟩, -⟩ := splitNumber?_eq_some_iff.1 h
  cases cs with
  | nil => exact absurd hwhole hne
  | cons c cs =>
    refine ⟨c, cs, rfl, ?_⟩
    by_contra hdigit
    rw [List.takeWhile_cons_of_neg hdigit] at hwhole
    exact hne hwhole

theorem splitNumber?_head {p : NumberParts} (h : splitNumber? cs = some (p, tail)) :
    cs.head? ≠ some '-' := by
  obtain ⟨c, cs, rfl, hdigit⟩ := splitNumber?_start h
  intro hsign
  cases hsign
  cases hdigit

theorem splitNumber?_append {p : NumberParts} (hstop : Stops rest)
    (h : splitNumber? cs = some (p, tail)) : splitNumber? (cs ++ rest) = some (p, tail ++ rest) := by
  obtain ⟨hwhole, behind, hfraction, hpower⟩ := splitNumber?_eq_some_iff.1 h
  rw [splitNumber?_eq_some_iff, Text.takeWhile_append_stop _ hstop.not_digit,
    Text.dropWhile_append_stop _ hstop.not_digit]
  exact ⟨hwhole, _, splitFraction?_append hstop hfraction, splitPower?_append hstop hpower⟩

section

variable {number : Bool → NumberParts → Node} {node : Node}

theorem splitNumberNode?_unsigned (h : cs.head? ≠ some '-') :
    splitNumberNode? number cs = (splitNumber? cs).map fun (p, rest) => (number false p, rest) := by
  unfold splitNumberNode?
  split
  · exact absurd rfl h
  · rfl

/-- A number begins with its sign or a digit. -/
theorem splitNumberNode?_head (h : splitNumberNode? number cs = some (node, tail)) :
    ∃ c cs', cs = c :: cs' ∧ (c = '-' ∨ isDigit c) := by
  by_cases hsign : cs.head? = some '-'
  · obtain ⟨cs, rfl⟩ := List.head?_eq_some_iff.1 hsign
    exact ⟨'-', cs, rfl, .inl rfl⟩
  · rw [splitNumberNode?_unsigned hsign] at h
    obtain ⟨⟨p, tail⟩, hnumber, -⟩ := Option.map_eq_some_iff.1 h
    obtain ⟨c, cs, rfl, hdigit⟩ := splitNumber?_start hnumber
    exact ⟨c, cs, rfl, .inr hdigit⟩

/-- A number is read alike whatever stands behind it. -/
theorem splitNumberNode?_append (hstop : Stops rest)
    (h : splitNumberNode? number cs = some (node, tail)) :
    splitNumberNode? number (cs ++ rest) = some (node, tail ++ rest) := by
  obtain ⟨c, cs, rfl, -⟩ := splitNumberNode?_head h
  by_cases hsign : c = '-'
  · subst hsign
    obtain ⟨⟨p, tail⟩, hnumber, hparts⟩ := Option.map_eq_some_iff.1 h
    cases hparts
    rw [List.cons_append, splitNumberNode?, splitNumber?_append hstop hnumber]
    rfl
  · rw [splitNumberNode?_unsigned (by simpa using hsign)] at h ⊢
    obtain ⟨⟨p, tail⟩, hnumber, hparts⟩ := Option.map_eq_some_iff.1 h
    cases hparts
    rw [splitNumber?_append hstop hnumber]
    rfl

end

/-! ## The parts of what is written -/

theorem noLeadingZero_toDigits (n : Nat) : NoLeadingZero (Nat.toDigits 10 n) := by
  intro hzero
  by_cases hn : n = 0
  · subst hn
    rfl
  · exact absurd hzero (head?_toDigits_ne hn)

variable {whole behind : List Char}

theorem splitNumber?_of_parts {fraction : Option (List Char)} {exponent : Option Int}
    (hwhole : AllDigits whole) (hzero : NoLeadingZero whole)
    (hstop : rest.head?.any isDigit = false) (hfraction : splitFraction? rest = some (fraction, tail))
    (hpower : splitPower? tail = some (exponent, [])) :
    splitNumber? (whole ++ rest) = some (⟨whole, fraction, exponent⟩, []) := by
  obtain ⟨htake, hdrop⟩ := hwhole.span hstop
  rw [splitNumber?_eq_some_iff, htake, hdrop]
  exact ⟨⟨rfl, hwhole.ne_nil, hzero⟩, tail, hfraction, hpower⟩

theorem splitFraction?_point (hbehind : AllDigits behind) (hstop : rest.head?.any isDigit = false) :
    splitFraction? ('.' :: behind ++ rest) = some (some behind, rest) := by
  obtain ⟨htake, hdrop⟩ := hbehind.span hstop
  rw [List.cons_append, splitFraction?, htake, hdrop, if_neg (by simpa using hbehind.ne_nil)]

/-- An exponent is written with its sign. -/
theorem splitPower?_letter (n : Int) :
    splitPower? ('e' :: (if n < 0 then '-' else '+') :: Nat.toDigits 10 n.natAbs) = some (some n, []) := by
  have hdigits := allDigits_toDigits n.natAbs
  have hspan := @AllDigits.span _ [] hdigits rfl
  rw [List.append_nil] at hspan
  have hsign : splitSign ((if n < 0 then '-' else '+') :: Nat.toDigits 10 n.natAbs) =
      (decide (n < 0), Nat.toDigits 10 n.natAbs) := by
    split_ifs with hn <;> simp [splitSign, hn]
  rw [splitPower?, splitExponent?, hsign]
  dsimp only
  rw [hspan.1, hspan.2, if_neg (by simp), ofDigits_toDigits]
  simp only [decide_eq_true_eq, Option.map_some]
  congr 3
  split_ifs <;> omega

end MetricFacade.Json
