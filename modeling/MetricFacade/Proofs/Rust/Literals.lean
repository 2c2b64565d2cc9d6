import MetricFacade.Proofs.Json.Numbers
import MetricFacade.Proofs.Rust.Reading
import MetricFacade.Proofs.Rust.WellNamed

/-!
# Numbers of generated code

A double is written as its shortest decimal with its type behind it, a count as its digits with
theirs. A compiler takes the decimal for the nearest double, and the digits are such that this is
the double that was meant.

Results:

* `readUnsigned?_positional`: a decimal written in full is read as its value.
* `double?_double`, `count?_count`: the literals give the numbers back.
* `readBuckets?_tokens`: so does the expression for the buckets of a metric.
-/
namespace MetricFacade.Number

open Json

/-! ## Decimals in full -/

variable {d : Decimal} {whole behind : List Char}

theorem readUnsigned?_digits (h : AllDigits whole) :
    readUnsigned? whole = some ⟨ofDigits whole, 0⟩ := by
  obtain ⟨htake, hdrop⟩ := @AllDigits.span _ [] h rfl
  rw [List.append_nil] at htake hdrop
  simp [readUnsigned?, htake, hdrop, h.ne_nil]

theorem readUnsigned?_point (hwhole : AllDigits whole) (hbehind : AllDigits behind) :
    readUnsigned? (whole ++ '.' :: behind) = some ⟨ofDigits (whole ++ behind), -behind.length⟩ := by
  obtain ⟨htake, hdrop⟩ := @AllDigits.span _ ('.' :: behind) hwhole rfl
  obtain ⟨hafter, hend⟩ := @AllDigits.span _ [] hbehind rfl
  rw [List.append_nil] at hafter hend
  simp [readUnsigned?, htake, hdrop, hafter, hend, hwhole.ne_nil]

/-- A zero behind the point may as well be left out. -/
theorem value_of_around_zero (h : Around d whole ['0']) :
    (Decimal.mk (ofDigits whole) 0).value = d.value := by
  have hdigits := ofDigits_append_zeros whole 1
  rw [← h.value, show ['0'] = zeros 1 from rfl, hdigits, Decimal.value, Decimal.value]
  simp only [zeros, List.length_replicate, pow_one, Nat.cast_mul, Nat.cast_ofNat, Nat.cast_one,
    zpow_zero, mul_one, zpow_neg, zpow_one]
  ring

theorem readUnsigned?_positional (hzero : d.digits = 0 → d.exponent = 0) :
    ∃ e, readUnsigned? (digitsOf d).positional = some e ∧ e.value = d.value := by
  rw [Digits.positional]
  split_ifs with hsmall hwhole
  · have haround := around_small hsmall
    exact ⟨_, readUnsigned?_point haround.before haround.after, haround.value⟩
  · have haround := around_whole hzero hwhole
    exact ⟨_, readUnsigned?_digits haround.before, value_of_around_zero haround⟩
  · have haround := around_split hsmall hwhole
    exact ⟨_, readUnsigned?_point haround.before haround.after, haround.value⟩

theorem plain_abs {x : Float} (h : x.isFinite) :
    plain x.abs = String.ofList (magnitudeDigits .upper x).positional := by
  have hfinite := isFinite_abs h
  have hproper : x.abs.isNaN = false ∧ x.abs.isInf = false := by
    change x.abs.toModel.unpack.isFinite at hfinite
    change x.abs.toModel.unpack.isNaN = false ∧ x.abs.toModel.unpack.isInf = false
    cases hx : x.abs.toModel.unpack with
    | notANumber | infinity => rw [hx] at hfinite; cases hfinite
    | zero | finite => exact ⟨rfl, rfl⟩
  have hdigits : magnitudeDigits .upper x.abs = magnitudeDigits .upper x := by
    rw [magnitudeDigits, magnitudeDigits, magnitudeBits_abs h]
  simp only [plain, hproper, signed, isNegative_abs, hdigits, Bool.false_eq_true, if_false]

/-- The digits of a finite double come to its magnitude. -/
theorem nearest_plain_abs {x : Float} (h : x.isFinite) :
    (readUnsigned? (plain x.abs).toList).map Decimal.nearest =
      some (Float.ofBits (magnitudeBits x).toUInt64) := by
  have hbits := magnitudeBits_lt h
  obtain ⟨e, hread, hvalue⟩ := readUnsigned?_positional (@shortest_zero .upper _ hbits)
  rw [plain_abs h, String.toList_ofList, magnitudeDigits_eq, hread, Option.map_some,
    Decimal.nearest, Decimal.nearestBits_congr hvalue, shortest_nearestBits .upper hbits]

end MetricFacade.Number

namespace MetricFacade.Rust

open Number Token

/-! ## Readers -/

/-- What stands before the type of a number. -/
def untyped? (type spelling : String) : Option (List Char) :=
  if type.toList.isSuffixOf spelling.toList then
    some (spelling.toList.take (spelling.toList.length - type.toList.length))
  else none

def magnitude? (spelling : String) : Option Float :=
  (untyped? "f64" spelling).bind fun digits => (readUnsigned? digits).map Decimal.nearest

/-- A double. The sign is a token of its own. -/
def double? : List Token → Option Float
  | [code "-", code spelling] => (magnitude? spelling).map fun x => -x
  | [code spelling] => magnitude? spelling
  | _ => none

def count? : List Token → Option Nat
  | [code spelling] => (untyped? "usize" spelling).bind readNat?
  | _ => none

/-- The call that the arguments of a function of the client library make. -/
def formula? (function : String) (first second : Float) (count : Nat) : Option BucketCall :=
  if function = "exponential_buckets" then some (.exponential first second count)
  else if function = "linear_buckets" then some (.linear first second count)
  else none

/-- `vec ! [ .. ]`, or the call of a function of the client library with its failure passed on.
What follows is left. -/
def readBuckets? (tokens : List Token) : Option (BucketCall × List Token) :=
  match strip ["vec", "!", "["] tokens with
  | some tokens => do
    let (items, tokens) ← splitList "]" tokens
    return (.bounds (← items.mapM double?), tokens)
  | none => do
    let (function, tokens) ← clientName tokens
    let tokens ← strip ["("] tokens
    match splitList ")" tokens with
    | some ([first, second, count], tokens) => do
      let tokens ← strip ["?"] tokens
      let call ← formula? function (← double? first) (← double? second)
        (← count? count)
      return (call, tokens)
    | _ => none

/-! ## Literals -/

theorem untyped?_append (spelling type : String) :
    untyped? type (spelling ++ type) = some spelling.toList := by
  have hsuffix : type.toList.isSuffixOf (spelling ++ type).toList := by
    rw [String.toList_append, List.isSuffixOf_iff_suffix]
    exact List.suffix_append _ _
  rw [untyped?, if_pos hsuffix, String.toList_append]
  simp

theorem magnitude?_double {x : Float} (h : x.isFinite) :
    magnitude? (plain x.abs ++ "f64") = some (Float.ofBits (magnitudeBits x).toUInt64) := by
  rw [magnitude?, untyped?_append, Option.bind_some, nearest_plain_abs h]

/-- **The literal of a finite double gives it back**, the sign of zero included. -/
theorem double?_double {x : Float} (h : x.isFinite) : double? (double x) = some x := by
  have hmagnitude := magnitude?_double h
  unfold double
  split
  · next hsign =>
    simp [double?, hmagnitude, neg_ofBits_magnitudeBits h hsign]
  · next hsign =>
    simp [double?, hmagnitude, ofBits_magnitudeBits (Bool.eq_false_iff.2 hsign)]

theorem count?_count (n : Nat) : count? [code (toString n ++ "usize")] = some n := by
  have hdigits := allDigits_toDigits n
  rw [count?, untyped?_append, Option.bind_some, Nat.toString_eq_ofList_toDigits,
    String.toList_ofList, readNat?, if_neg, ofDigits_toDigits]
  have hall : (Nat.toDigits 10 n).all isDigit := List.all_eq_true.2 hdigits.digit
  simp [hdigits.ne_nil, hall]

/-! ## Buckets -/

theorem inner_of_notMem {close : String} {item : List Token} (hcomma : code "," ∉ item)
    (hclose : code close ∉ item) : ∀ t ∈ item, Inner close t :=
  fun _ ht => ⟨ne_of_mem_of_not_mem ht hcomma, ne_of_mem_of_not_mem ht hclose⟩

theorem inner_double {close : String} (hclose : Foreign close) (hsign : close ≠ "-") (x : Float) :
    ∀ t ∈ double x, Inner close t :=
  inner_of_notMem (notMem_double foreign_comma (by decide) x) (notMem_double hclose hsign x)

/-- Doubles written one by one are read one by one. -/
theorem mapM_double? {values : List Float} (h : ∀ x ∈ values, x.isFinite) :
    (values.map double).mapM double? = some values := by
  induction values with
  | nil => rfl
  | cons x values ih =>
    obtain ⟨hx, hvalues⟩ := List.forall_mem_cons.1 h
    rw [List.map_cons, List.mapM_cons, double?_double hx, ih hvalues]
    rfl

theorem readBuckets?_bounds {values : List Float} (hne : values ≠ [])
    (h : ∀ x ∈ values, x.isFinite) (rt : String) (rest : List Token) :
    readBuckets? ((BucketCall.bounds values).tokens rt ++ rest) = some (.bounds values, rest) := by
  have hitems : ∀ item ∈ values.map double, ∀ t ∈ item, Inner "]" t := by
    rw [List.forall_mem_map]
    exact fun x _ => inner_double (foreign_of_isMark (by decide) (by decide)) (by decide) x
  have hlist := splitList_commaSeparated (show "]" ≠ "," by decide)
    (mt List.map_eq_nil_iff.1 hne) hitems rest
  have htokens : (BucketCall.bounds values).tokens rt ++ rest =
      codes ["vec", "!", "["] ++ (commaSeparated (values.map double) ++ code "]" :: rest) := by
    simp [BucketCall.tokens, codes]
  rw [htokens, readBuckets?, strip_codes]
  simp [hlist, mapM_double? h]

theorem readBuckets?_formula {function : String} {first second : Float} {count : Nat}
    (hfirst : first.isFinite) (hsecond : second.isFinite) {call : BucketCall}
    (hcall : formula? function first second count = some call) (rt : String) (rest : List Token) :
    readBuckets? (BucketCall.tokens.formula rt function first second count ++ rest) =
      some (call, rest) := by
  have hitems : ∀ item ∈ [double first, double second, [code (toString count ++ "usize")]],
      ∀ t ∈ item, Inner ")" t := by
    have hclose : Foreign ")" := foreign_of_isMark (by decide) (by decide)
    have hcount : ∀ t ∈ [code (toString count ++ "usize")], Inner ")" t := by
      refine inner_of_notMem ?_ ?_
      · exact fun h => foreign_comma.count _ (Token.code.inj (List.mem_singleton.1 h))
      · exact fun h => hclose.count _ (Token.code.inj (List.mem_singleton.1 h))
    rw [List.forall_mem_cons, List.forall_mem_cons, List.forall_mem_singleton]
    exact ⟨inner_double hclose (by decide) first, inner_double hclose (by decide) second, hcount⟩
  have hlist := splitList_commaSeparated (show ")" ≠ "," by decide) (by simp) hitems
    (codes ["?"] ++ rest)
  have htokens : BucketCall.tokens.formula rt function first second count ++ rest =
      clientItem rt [function] ++ (codes ["("] ++ (commaSeparated
        [double first, double second, [code (toString count ++ "usize")]] ++
          code ")" :: (codes ["?"] ++ rest))) := by
    simp [BucketCall.tokens.formula, codes]
  have hother : strip ["vec", "!", "["] (BucketCall.tokens.formula rt function first second count
      ++ rest) = none := by
    simp [BucketCall.tokens.formula, clientItem, crateItem, codes, strip]
  rw [readBuckets?, hother, htokens]
  simp only [clientName_clientItem, strip_codes, Option.bind_eq_bind, Option.bind_some, hlist,
    double?_double hfirst, double?_double hsecond, count?_count, hcall]
  rfl

/-- **The expression for some buckets gives them back.** -/
theorem readBuckets?_tokens {call : BucketCall} (hne : call ≠ .bounds []) (h : call.Finite)
    (rt : String) (rest : List Token) :
    readBuckets? (call.tokens rt ++ rest) = some (call, rest) := by
  cases call with
  | exponential => exact readBuckets?_formula h.1 h.2 rfl rt rest
  | linear => exact readBuckets?_formula h.1 h.2 rfl rt rest
  | bounds => exact readBuckets?_bounds (fun hnil => hne (congrArg _ hnil)) h rt rest

/-- A sound specification asks for a bound at least. -/
theorem ofSpec_ne_nil {spec : Bucket.Spec} (h : spec.Sound) :
    BucketCall.ofSpec spec ≠ .bounds [] := by
  cases spec with
  | explicit values => exact fun hnil => h.1 (BucketCall.bounds.inj hnil)
  | exponential | linear => nofun
  | standard => exact fun hnil => absurd hnil (by decide +kernel)

theorem readBuckets?_ofSpec {spec : Bucket.Spec} (h : spec.Sound) (rt : String)
    (rest : List Token) :
    readBuckets? ((BucketCall.ofSpec spec).tokens rt ++ rest) =
      some (BucketCall.ofSpec spec, rest) :=
  readBuckets?_tokens (ofSpec_ne_nil h) (finite_of_sound h) rt rest

end MetricFacade.Rust
