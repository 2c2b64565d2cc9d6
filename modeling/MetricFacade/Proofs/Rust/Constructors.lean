import MetricFacade.Proofs.Rust.HelpTexts
import MetricFacade.Proofs.Rust.Literals

/-!
# Constructors read in full

A constructor says all there is to say about a metric: which field it is for, of what type, and the
name, help text, buckets and labels that the client library is given.

Results:

* `readBucketsArgument_tokens`, `readLabelsArgument_tokens`: the arguments that may be missing.
* `readConstructor_tokens`: a constructor is read as it was meant.
-/
namespace MetricFacade.Rust

open Ident Token

/-! ## Readers -/

/-- The buckets that the options are given, if they are given any, and what follows. -/
def readBucketsArgument (tokens : List Token) : Option (Option BucketCall × List Token) :=
  match strip [".", "buckets", "("] tokens with
  | none => some (none, tokens)
  | some tokens => do
    let (call, tokens) ← readBuckets? tokens
    return (some call, ← strip [")"] tokens)

/-- The labels behind the options, if there are any. -/
def readLabelsArgument (tokens : List Token) : Option (List String) :=
  match strip [",", "&", "["] tokens with
  | none => if tokens = codes [")", "?", ";"] then some [] else none
  | some tokens => do
    let (items, tokens) ← splitList "]" tokens
    if tokens = codes [")", "?", ";"] then items.mapM text? else none

/-- `let field = Handle :: function ( Options :: new ( name , help ) .. ) ? ;`, with the items of the
client library by their names. It has the options for histograms exactly if these are named. -/
def readConstructor (tokens : List Token) : Option Constructor := do
  let tokens ← strip ["let"] tokens
  let (field, tokens) ← word tokens
  let tokens ← strip ["="] tokens
  let (handle, tokens) ← clientName tokens
  let tokens ← strip ["::"] tokens
  let (_, tokens) ← word tokens
  let tokens ← strip ["("] tokens
  let (options, tokens) ← clientName tokens
  let tokens ← strip ["::", "new", "("] tokens
  let (arguments, tokens) ← splitList ")" tokens
  match arguments with
  | [[text name], [text help]] =>
    let (buckets, tokens) ← readBucketsArgument tokens
    let labels ← readLabelsArgument tokens
    return ⟨field, handle, options = "HistogramOpts", name, help, buckets, labels⟩
  | _ => none

theorem readConstructor_of_ne {t : Token} {tokens : List Token} (h : t ≠ code "let") :
    readConstructor (t :: tokens) = none := by
  rw [readConstructor, strip, if_neg h]
  rfl

/-! ## Arguments that may be missing -/

namespace Constructor

def bucketsArgument (rt : String) (c : Constructor) : List Token :=
  match c.buckets with
  | none => []
  | some buckets => codes [".", "buckets", "("] ++ buckets.tokens rt ++ [code ")"]

def labelsArgument (c : Constructor) : List Token :=
  (if c.labels.isEmpty then []
    else codes [",", "&", "["] ++ commaSeparated (c.labels.map fun label => [text label])
      ++ [code "]"]) ++ codes [")", "?", ";"]

theorem afterHelp_eq (rt : String) (c : Constructor) :
    c.afterHelp rt = code ")" :: (c.bucketsArgument rt ++ c.labelsArgument) := by
  unfold afterHelp bucketsArgument labelsArgument
  cases c.buckets with
  | none => simp only [List.cons_append, List.append_assoc]
  | some call => simp only [List.cons_append, List.append_assoc]

end Constructor

variable {c : Constructor}

theorem readLabelsArgument_tokens (c : Constructor) :
    readLabelsArgument c.labelsArgument = some c.labels := by
  unfold Constructor.labelsArgument
  split
  · next hnone =>
    rw [List.isEmpty_iff.1 hnone]
    rfl
  · next hsome =>
    have hlist := splitList_commaSeparated (show "]" ≠ "," by decide)
      (mt List.map_eq_nil_iff.1 (mt List.isEmpty_iff.2 hsome))
      (show ∀ item ∈ c.labels.map fun label => [text label], ∀ t ∈ item, Inner "]" t by
        simp [Inner]) (codes [")", "?", ";"])
    have hread : ∀ label, text? [text label] = some label := fun _ => rfl
    simp only [List.append_assoc, List.singleton_append, readLabelsArgument, strip_codes, hlist,
      Option.bind_eq_bind, Option.bind_some, if_true, mapM_map hread]

theorem readBucketsArgument_tokens (h : ∀ call ∈ c.buckets, call ≠ .bounds [] ∧ call.Finite)
    (rt : String) :
    readBucketsArgument (c.bucketsArgument rt ++ c.labelsArgument) =
      some (c.buckets, c.labelsArgument) := by
  unfold Constructor.bucketsArgument
  cases hbuckets : c.buckets with
  | none =>
    have hother : strip [".", "buckets", "("] c.labelsArgument = none := by
      unfold Constructor.labelsArgument
      split <;> simp [strip, codes]
    rw [List.nil_append, readBucketsArgument, hother]
  | some call =>
    obtain ⟨hne, hfinite⟩ := h call hbuckets
    have hcall := readBuckets?_tokens hne hfinite rt (codes [")"] ++ c.labelsArgument)
    have htokens : codes [".", "buckets", "("] ++ call.tokens rt ++ [code ")"] ++ c.labelsArgument =
        codes [".", "buckets", "("] ++ (call.tokens rt ++ (codes [")"] ++ c.labelsArgument)) := by
      simp [codes]
    rw [htokens, readBucketsArgument, strip_codes]
    simp only [hcall, Option.bind_eq_bind, Option.bind_some, strip_codes]
    rfl

/-- **A constructor is read as it was meant.** -/
theorem readConstructor_tokens (h : ∀ call ∈ c.buckets, call ≠ .bounds [] ∧ call.Finite)
    (rt : String) : readConstructor (c.tokens rt) = some c := by
  have hhandle (function : String) (rest : List Token) :
      clientName (clientItem rt [c.handle, function] ++ rest) =
        some (c.handle, codes ["::"] ++ code function :: rest) := by
    simp [clientName, clientItem, crateItem, codes, strip, word]
  have hoptions (options : String) (rest : List Token) :
      clientName (clientItem rt [options, "new"] ++ (codes ["("] ++ rest)) =
        some (options, codes ["::", "new", "("] ++ rest) := by
    simp [clientName, clientItem, crateItem, codes, strip, word]
  have htexts := splitList_commaSeparated (show ")" ≠ "," by decide)
    (List.cons_ne_nil [text c.name] [[text c.help]])
    (show ∀ item ∈ [[text c.name], [text c.help]], ∀ t ∈ item, Inner ")" t by simp [Inner])
    (c.bucketsArgument rt ++ c.labelsArgument)
  have htokens : c.tokens rt = codes ["let"] ++ code c.field :: (codes ["="] ++ (
      clientItem rt [c.handle, if c.labels.isEmpty then "with_opts" else "new"] ++ (codes ["("] ++ (
        clientItem rt [if c.forHistogram then "HistogramOpts" else "Opts", "new"] ++ (
          codes ["("] ++ (commaSeparated [[text c.name], [text c.help]] ++
            code ")" :: (c.bucketsArgument rt ++ c.labelsArgument))))))) := by
    rw [c.tokens_around_help, c.afterHelp_eq, Constructor.beforeHelp]
    simp [commaSeparated, codes]
  have hhistogram : decide ((if c.forHistogram then "HistogramOpts" else "Opts") =
      "HistogramOpts") = c.forHistogram := by
    cases c.forHistogram <;> rfl
  rw [htokens, readConstructor]
  simp only [strip_codes, word, hhandle, hoptions, htexts, readBucketsArgument_tokens h,
    readLabelsArgument_tokens, hhistogram, Option.bind_eq_bind, Option.bind_some]
  rfl

end MetricFacade.Rust
