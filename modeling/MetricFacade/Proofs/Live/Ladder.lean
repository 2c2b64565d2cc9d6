import MetricFacade.Proofs.Live.Instrument
import MetricFacade.Proofs.Number.Exact
import MetricFacade.Proofs.Rust.Literals

/-!
# The ladder that was checked and the one that runs

A formulaic ladder is computed twice: here, where it is checked and described, and by the client
library, from the call in generated code. Both multiply a geometric ladder up from its start. An
arithmetic one is added up here, while the client library computes every bound from the start anew,
and a bound may then be rounded to another double.

Results:

* `evenSteps_eq_ladder_iff`: when the two arithmetic ladders are the same.
* `onGrid_evenSteps`: they are where nothing has to be rounded.
* `ladder_runs`: what a call in generated code comes to.
-/
namespace MetricFacade.Live

open Bucket MetricFacade.Rust

/-! ## What the client library computes -/

/-- What the expression for some buckets asks for. -/
def asked : BucketCall → Spec
  | .exponential start factor count => .exponential start factor count
  | .linear start width count => .linear start width count
  | .bounds values => .explicit values

/-- The bounds that the expression for some buckets comes to, unless the client library refuses to
compute them. -/
def runBuckets (tokens : List Token) : Option (List Float) :=
  match readBuckets? tokens with
  | some (call, []) => if refusesLadder (asked call) then none else some (clientBounds (asked call))
  | _ => none

/-- The expression for a sound specification is read as it was meant, and not refused. -/
theorem runBuckets_ofSpec {spec : Spec} (h : spec.Sound) (rt : String) :
    runBuckets ((BucketCall.ofSpec spec).tokens rt) =
      some (clientBounds (asked (BucketCall.ofSpec spec))) := by
  have hrefused : refusesLadder (asked (BucketCall.ofSpec spec)) = false := by
    cases spec with
    | explicit | standard => rfl
    | exponential | linear => exact refusesLadder_of_sound h
  have hread := readBuckets?_ofSpec h rt []
  rw [List.append_nil] at hread
  simp [runBuckets, hread, hrefused]

/-! ## Two ways to an arithmetic ladder -/

theorem evenSteps_eq_ladder_iff {start width : Float} {count : Nat} :
    evenSteps start width count = ladder (· + width) count start ↔
      ∀ i < count, start + width * i.toFloat = (· + width)^[i] start := by
  rw [evenSteps, ladder_eq_iterate, List.map_inj_left]
  simp only [List.mem_range]

/-- Start and width are whole multiples of one power of two, and up to the end of the ladder the
multiples have 53 bits at most. -/
def OnGrid (start width : Float) (count : Nat) : Prop :=
  ∃ n w q : Int, start = Number.dyadic n q ∧ width = Number.dyadic w q ∧ 0 < w ∧
    n.natAbs + count * w.natAbs < 2 ^ 53 ∧ Number.minExponent ≤ q ∧ q ≤ 971

/-- On a grid nothing is rounded, so both ways lead to the same bound. -/
theorem onGrid_step {n w q : Int} {count : Nat} (hw : 0 < w)
    (hbits : n.natAbs + count * w.natAbs < 2 ^ 53) (hleast : Number.minExponent ≤ q)
    (hgreatest : q ≤ 971) {i : Nat} (hi : i < count) :
    Number.dyadic n q + Number.dyadic w q * i.toFloat = Number.dyadic (n + w * i) q ∧
      (· + Number.dyadic w q)^[i] (Number.dyadic n q) = Number.dyadic (n + w * i) q := by
  -- Every multiple on the way stays within the bits that the last one needs.
  have hpart : ∀ {j : Nat}, j ≤ i → (w * j).natAbs ≤ i * w.natAbs := by
    intro j hj
    rw [Int.natAbs_mul, Int.natAbs_natCast, Nat.mul_comm]
    exact Nat.mul_le_mul_right _ hj
  have hwhole : i * w.natAbs + w.natAbs ≤ count * w.natAbs := by
    rw [← Nat.succ_mul]
    exact Nat.mul_le_mul_right _ hi
  have hcount : i ≤ i * w.natAbs := Nat.le_mul_of_pos_right _ (Int.natAbs_pos.2 hw.ne')
  have hmultiple : ∀ {k : Int}, k.natAbs ≤ n.natAbs + i * w.natAbs + w.natAbs → Number.Exact k q :=
    fun hk => ⟨by omega, hleast, hgreatest⟩
  have hbound : ∀ {j : Nat}, j ≤ i → Number.Exact (n + w * j) q := by
    intro j hj
    have := hpart hj
    exact hmultiple (by omega)
  have hstart : Number.Exact n q := hmultiple (by omega)
  have hwidth : Number.Exact w q := hmultiple (by omega)
  constructor
  · have hproduct : Number.Exact (w * i) q := by
      have := hpart le_rfl
      exact hmultiple (by omega)
    have hindex : Number.Exact i 0 := ⟨by omega, by decide, by decide⟩
    rw [Number.toFloat_eq_dyadic (by omega),
      Number.dyadic_mul hwidth hw hindex (Int.natCast_nonneg i) hproduct,
      Number.dyadic_add hstart hproduct (hbound le_rfl)]
  · have hsteps : ∀ j ≤ i,
        (· + Number.dyadic w q)^[j] (Number.dyadic n q) = Number.dyadic (n + w * j) q := by
      intro j
      induction j with
      | zero => intro _; rw [Nat.cast_zero, mul_zero, add_zero]; rfl
      | succ j ih =>
        intro hj
        have hnext : n + w * ((j + 1 : Nat) : Int) = n + w * j + w := by push_cast; ring
        rw [Function.iterate_succ_apply', ih (Nat.le_of_succ_le hj), hnext]
        exact Number.dyadic_add (hbound (Nat.le_of_succ_le hj)) hwidth (hnext ▸ hbound hj)
    exact hsteps i le_rfl

theorem onGrid_evenSteps {start width : Float} {count : Nat} (h : OnGrid start width count) :
    evenSteps start width count = ladder (· + width) count start := by
  obtain ⟨n, w, q, rfl, rfl, hw, hbits, hleast, hgreatest⟩ := h
  rw [evenSteps_eq_ladder_iff]
  intro i hi
  obtain ⟨hanew, hstep⟩ := onGrid_step hw hbits hleast hgreatest hi
  rw [hanew, hstep]

/-! ## The call in generated code -/

/-- **A ladder runs as it was checked unless it is arithmetic and rounded.** For every specification
without fault the client library does what generated code asks of it. What it computes are the
bounds that were checked, bit for bit, if the specification is not arithmetic. An arithmetic ladder
has as many bounds as were checked, and they are the same exactly if adding up leads to the same
doubles as computing each from the start; so they are if nothing has to be rounded. -/
theorem ladder_runs {spec : Spec} (hfault : spec.fault? = none) (rt : String) :
    (spec.kind ≠ .linear →
        runBuckets ((BucketCall.ofSpec spec).tokens rt) = some spec.bounds) ∧
      ∀ start width count, spec = .linear start width count →
        ∃ live, runBuckets ((BucketCall.ofSpec spec).tokens rt) = some live ∧
          live = evenSteps start width count ∧ live.length = spec.bounds.length ∧
          (live = spec.bounds ↔
            ∀ i < count, start + width * i.toFloat = (· + width)^[i] start) ∧
          (OnGrid start width count → live = spec.bounds) := by
  have hrun := runBuckets_ofSpec (Spec.fault?_eq_none_iff.1 hfault) rt
  constructor
  · intro hkind
    rw [hrun]
    cases spec with
    | explicit | exponential | standard => rfl
    | linear => exact absurd rfl hkind
  · rintro start width count rfl
    refine ⟨evenSteps start width count, hrun, rfl, ?_, evenSteps_eq_ladder_iff, onGrid_evenSteps⟩
    rw [Spec.bounds, length_ladder, evenSteps, List.length_map, List.length_range]

/-- Halves from one on, which need no rounding. -/
def halvesSample : Spec := .linear 1.0 0.5 4

theorem halvesSample_runs :
    halvesSample.fault? = none ∧
      runBuckets ((BucketCall.ofSpec halvesSample).tokens "rt") = some [1.0, 1.5, 2.0, 2.5] := by
  have hfault : halvesSample.fault? = none := by decide +kernel
  obtain ⟨live, hrun, -, -, -, hgrid⟩ := (ladder_runs hfault "rt").2 _ _ _ rfl
  have honGrid : OnGrid 1.0 0.5 4 :=
    ⟨2, 1, -1, by decide +kernel, by decide +kernel, by decide, by decide, by decide, by decide⟩
  have hbounds : halvesSample.bounds = [1.0, 1.5, 2.0, 2.5] := by decide +kernel
  rw [hrun, hgrid honGrid, hbounds]
  exact ⟨hfault, rfl⟩

/-- Five milliseconds, ten times. -/
def millisSample : Spec := .linear 0.005 0.005 10

/-- So what was checked and described is not always what runs. -/
theorem not_all_ladders_run :
    ¬ ∀ (spec : Spec) (rt : String), spec.kind = .exponential ∨ spec.kind = .linear →
      spec.fault? = none →
        runBuckets ((BucketCall.ofSpec spec).tokens rt) = some spec.bounds := by
  intro h
  have hfault : millisSample.fault? = none := by decide +kernel
  have hrun := runBuckets_ofSpec (Spec.fault?_eq_none_iff.1 hfault) "rt"
  rw [h millisSample "rt" (.inr rfl) hfault] at hrun
  have hseventh := congrArg (fun bounds => bounds[6]?) (Option.some.inj hrun)
  exact absurd hseventh (by decide +kernel)

end MetricFacade.Live
