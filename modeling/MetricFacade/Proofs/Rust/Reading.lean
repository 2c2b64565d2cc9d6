import MetricFacade.Proofs.Rust.Vocabulary

/-!
# Reading generated items back

What the generated code of a metric says is read from its tokens alone: the field that a
constructor builds and the labels it lists, the parameters of an accessor and what its body hands
out. The readers follow the grammar of the language as far as these items use it, and know nothing
of how the items were written.

Results:

* `splitList_commaSeparated`: a bracketed list is split at its commas.
* `readMethod_tokens`: an accessor is read as it was meant.
* `readBuilding_tokens`: so is a constructor.
-/
namespace MetricFacade.Rust

open Check Ident Token

/-! ## Readers -/

/-- The tokens behind some known ones. -/
def strip : List String → List Token → Option (List Token)
  | [], tokens => some tokens
  | spelling :: known, t :: tokens => if t = code spelling then strip known tokens else none
  | _ :: _, [] => none

/-- A word, and what follows it. -/
def word : List Token → Option (String × List Token)
  | code spelling :: tokens => some (spelling, tokens)
  | _ => none

/-- The items of a list up to the bracket that closes it, and what follows. An item holds no
bracket of its own. -/
def splitList (close : String) : List Token → Option (List (List Token) × List Token)
  | [] => none
  | t :: tokens =>
    if t = code close then some ([[]], tokens)
    else match splitList close tokens with
      | some (item :: items, rest) =>
        some (if t = code "," then [] :: item :: items else (t :: item) :: items, rest)
      | _ => none

/-- `:: krate :: prometheus :: name`, an item of the client library. -/
def clientName (tokens : List Token) : Option (String × List Token) := do
  let tokens ← strip ["::"] tokens
  let (_, tokens) ← word tokens
  let tokens ← strip ["::", "prometheus", "::"] tokens
  word tokens

/-- `name : & str` -/
def parameter? : List Token → Option String
  | code name :: tokens => if tokens = codes [":", "&", "str"] then some name else none
  | _ => none

def name? : List Token → Option String
  | [code name] => some name
  | _ => none

def text? : List Token → Option String
  | [text value] => some value
  | _ => none

/-- What a method hands out. -/
inductive Body where
  /-- A clone of a field. -/
  | handle (field : String)
  /-- The child that a field has for an array of values. -/
  | child (size : String) (values : List String) (field : String)
  deriving Repr, DecidableEq

structure Method where
  name : String
  /-- Behind `& self`, all of them texts. -/
  params : List String
  output : String
  body : Body
  deriving Repr, DecidableEq

/-- `& self`, then the parameters. -/
def readParams (tokens : List Token) : Option (List String × List Token) :=
  match splitList ")" tokens with
  | some (receiver :: items, tokens) =>
    if receiver = codes ["&", "self"] then do return (← items.mapM parameter?, tokens) else none
  | _ => none

def readBody (tokens : List Token) : Option Body :=
  match strip ["self", "."] tokens with
  | some tokens => do
    let (field, tokens) ← word tokens
    if tokens = codes [".", "clone", "(", ")", "\x7d"] then return .handle field else none
  | none => do
    let tokens ← strip ["let", "values", ":", "[", "&", "str", ";"] tokens
    let (size, tokens) ← word tokens
    let tokens ← strip ["]", "=", "["] tokens
    let (items, tokens) ← splitList "]" tokens
    let values ← items.mapM name?
    let tokens ← strip [";", "self", "."] tokens
    let (field, tokens) ← word tokens
    if tokens = codes [".", "with_label_values", "(", "&", "values", ")", "\x7d"] then
      return .child size values field
    else none

/-- A method behind its attributes. -/
def readMethod (tokens : List Token) : Option Method := do
  let tokens ← strip ["pub", "fn"] (tokens.dropWhile (· ≠ code "pub"))
  let (name, tokens) ← word tokens
  let tokens ← strip ["("] tokens
  let (params, tokens) ← readParams tokens
  let tokens ← strip ["->"] tokens
  let (output, tokens) ← clientName tokens
  let tokens ← strip ["\x7b"] tokens
  return ⟨name, params, output, ← readBody tokens⟩

/-- A statement that builds a metric: the field it is for, the type, and the labels it lists. -/
structure Building where
  field : String
  handle : String
  labels : List String
  deriving Repr, DecidableEq

/-- The listed labels. Nothing else is passed by reference. -/
def readLabels (tokens : List Token) : Option (List String) :=
  match strip ["&", "["] (tokens.dropWhile (· ≠ code "&")) with
  | none => some []
  | some tokens => do
    let (items, _) ← splitList "]" tokens
    items.mapM text?

def readBuilding (tokens : List Token) : Option Building := do
  let tokens ← strip ["let"] tokens
  let (field, tokens) ← word tokens
  let tokens ← strip ["="] tokens
  let (handle, tokens) ← clientName tokens
  return ⟨field, handle, ← readLabels tokens⟩

/-! ## Lists -/

@[simp] theorem strip_codes (known : List String) (tokens : List Token) :
    strip known (codes known ++ tokens) = some tokens := by
  induction known with
  | nil => rfl
  | cons spelling known ih => simpa [strip, codes] using ih

/-- The token neither parts items nor closes the list. -/
def Inner (close : String) (t : Token) : Prop :=
  t ≠ code "," ∧ t ≠ code close

theorem splitList_append {close : String} {item : List Token} (h : ∀ t ∈ item, Inner close t)
    {tokens rest : List Token} {first : List Token} {items : List (List Token)}
    (hrest : splitList close tokens = some (first :: items, rest)) :
    splitList close (item ++ tokens) = some ((item ++ first) :: items, rest) := by
  induction item with
  | nil => exact hrest
  | cons t item ih =>
    obtain ⟨hcomma, hclose⟩ := h t List.mem_cons_self
    have hitem := ih fun u hu => h u (List.mem_cons_of_mem t hu)
    simp [splitList, hcomma, hclose, hitem]

theorem splitList_commaSeparated {close : String} (hclose : close ≠ ",") {items : List (List Token)}
    (hne : items ≠ []) (h : ∀ item ∈ items, ∀ t ∈ item, Inner close t) (rest : List Token) :
    splitList close (commaSeparated items ++ code close :: rest) = some (items, rest) := by
  have hend : splitList close (code close :: rest) = some ([[]], rest) := by simp [splitList]
  induction items with
  | nil => exact absurd rfl hne
  | cons item items ih =>
    have hitem := h item List.mem_cons_self
    cases items with
    | nil =>
      have hlast := splitList_append hitem hend
      rwa [List.append_nil] at hlast
    | cons next items =>
      have hnext := ih (List.cons_ne_nil next items) fun i hi => h i (List.mem_cons_of_mem item hi)
      have hcomma : splitList close
          (code "," :: (commaSeparated (next :: items) ++ code close :: rest)) =
            some ([] :: next :: items, rest) := by
        simp [splitList, hclose.symm, hnext]
      have hall := splitList_append hitem hcomma
      rw [List.append_nil] at hall
      rwa [commaSeparated_cons_cons, List.append_assoc]

/-! ## Identifiers among other tokens -/

theorem inner_identifier {w close : String} (h : Identifier w) (hclose : isMark close) :
    Inner close (code w) := by
  have hcomma : w ≠ "," := identifier_ne_mark h (by decide)
  have hmark : w ≠ close := identifier_ne_mark h hclose
  exact ⟨by simpa using hcomma, by simpa using hmark⟩

/-- A list is read back if each of its items is. -/
theorem mapM_map {α β : Type} {write : α → β} {read : β → Option α}
    (h : ∀ a, read (write a) = some a) (l : List α) : (l.map write).mapM read = some l := by
  induction l with
  | nil => rfl
  | cons a l ih => rw [List.map_cons, List.mapM_cons, h, ih]; rfl

theorem clientName_clientItem (rt name : String) (tokens : List Token) :
    clientName (clientItem rt [name] ++ tokens) = some (name, tokens) := by
  simp [clientName, clientItem, crateItem, codes, strip, word]

/-! ## Accessors -/

namespace Accessor

/-- What the body of an accessor is meant to hand out. -/
def body (a : Accessor) : Body :=
  if a.params.isEmpty then .handle a.field
  else .child (toString a.params.length) a.params a.field

/-- The method that an accessor is meant to be. -/
def toMethod (a : Accessor) : Method :=
  ⟨a.name, a.params, a.child, a.body⟩

def bodyTokens (a : Accessor) : List Token :=
  if a.params.isEmpty then codes ["self", ".", a.field, ".", "clone", "(", ")", "\x7d"]
  else a.valuesArray ++ codes ["self", ".", a.field, ".", "with_label_values", "(", "&", "values",
    ")", "\x7d"]

def attributes (a : Accessor) : List Token :=
  if a.params.isEmpty then docItem (text a.help) ++ metaItem [code "must_use"]
  else docItem (text a.help) ++ a.allowance ++ metaItem [code "must_use"]

/-- The tokens behind the attributes. -/
def method (rt : String) (a : Accessor) : List Token :=
  code "pub" :: code "fn" :: code a.name :: (codes ["("]
    ++ (commaSeparated (codes ["&", "self"] :: a.params.map fun p => codes [p, ":", "&", "str"])
      ++ code ")" :: (codes ["->"] ++ (clientItem rt [a.child]
        ++ (codes ["\x7b"] ++ a.bodyTokens)))))

theorem tokens_eq (rt : String) (a : Accessor) : a.tokens rt = a.attributes ++ a.method rt := by
  unfold tokens attributes method bodyTokens
  split
  · next hnone =>
    rw [List.isEmpty_iff] at hnone
    simp [codes, commaSeparated, braced, hnone]
  · simp [codes, braced]

/-- Attributes are made of texts and fixed words. -/
theorem notMem_attributes {mark : String} (h : mark ∉ ["#", "[", "]", "doc", "=", "must_use",
    "allow", "(", "non_snake_case", ",", "reason", ")"]) (a : Accessor) :
    code mark ∉ a.attributes := by
  simp only [List.mem_cons, not_or] at h
  have hallowance : code mark ∉ a.allowance := by
    unfold allowance
    split <;> simp [metaItem, codes, h]
  unfold attributes
  split <;> simp [docItem, metaItem, codes, h, hallowance]

end Accessor

theorem readParams_commaSeparated {params : List String} (h : ∀ p ∈ params, Identifier p)
    (rest : List Token) :
    readParams (commaSeparated (codes ["&", "self"] ::
      params.map fun p => codes [p, ":", "&", "str"]) ++ code ")" :: rest) =
        some (params, rest) := by
  have hitems : ∀ item ∈ codes ["&", "self"] :: params.map fun p => codes [p, ":", "&", "str"],
      ∀ t ∈ item, Inner ")" t := by
    have hfixed : Inner ")" (code "&") ∧ Inner ")" (code "self") ∧ Inner ")" (code ":") ∧
        Inner ")" (code "str") := by simp [Inner]
    rw [List.forall_mem_cons, List.forall_mem_map]
    constructor
    · simp [codes, hfixed]
    · intro p hp
      have hparam : Inner ")" (code p) := inner_identifier (h p hp) (by decide)
      simp [codes, hfixed, hparam]
  rw [readParams, splitList_commaSeparated (by decide) (List.cons_ne_nil _ _) hitems]
  have hread : ∀ p, parameter? (codes [p, ":", "&", "str"]) = some p := by simp [parameter?, codes]
  simp only [if_true, mapM_map hread]
  rfl

theorem readBody_handle (field : String) :
    readBody (codes ["self", ".", field, ".", "clone", "(", ")", "\x7d"]) =
      some (.handle field) := by
  simp [readBody, strip, word, codes]

theorem readBody_child {a : Accessor} (hne : a.params ≠ []) (h : ∀ p ∈ a.params, Identifier p) :
    readBody (a.valuesArray ++ codes ["self", ".", a.field, ".", "with_label_values", "(", "&",
      "values", ")", "\x7d"]) =
        some (.child (toString a.params.length) a.params a.field) := by
  have hitems : ∀ item ∈ a.params.map fun p => [code p], ∀ t ∈ item, Inner "]" t := by
    rw [List.forall_mem_map]
    intro p hp t ht
    rw [List.mem_singleton.1 ht]
    exact inner_identifier (h p hp) (by decide)
  have hread : ∀ p, name? [code p] = some p := fun _ => rfl
  have htokens : a.valuesArray ++ codes ["self", ".", a.field, ".", "with_label_values", "(", "&",
      "values", ")", "\x7d"] =
        codes ["let", "values", ":", "[", "&", "str", ";"] ++ code (toString a.params.length) ::
          (codes ["]", "=", "["] ++ (commaSeparated (a.params.map fun p => [code p]) ++ code "]" ::
            (codes [";", "self", "."] ++ code a.field ::
              codes [".", "with_label_values", "(", "&", "values", ")", "\x7d"]))) := by
    simp [Accessor.valuesArray, codes]
  have hother (rest : List Token) : strip ["self", "."]
      (codes ["let", "values", ":", "[", "&", "str", ";"] ++ rest) = none := by
    simp [strip, codes]
  have hlist := splitList_commaSeparated (show "]" ≠ "," by decide)
    (mt List.map_eq_nil_iff.1 hne) hitems
  rw [htokens, readBody, hother]
  simp [word, hlist, mapM_map hread]

theorem readBody_bodyTokens {a : Accessor} (h : ∀ p ∈ a.params, Identifier p) :
    readBody a.bodyTokens = some a.body := by
  unfold Accessor.bodyTokens Accessor.body
  split
  · exact readBody_handle a.field
  · next hne => exact readBody_child (fun hnil => hne (List.isEmpty_iff.2 hnil)) h

/-- The first token of its kind ends what is skipped. -/
theorem dropWhile_ne_append {t : Token} {skipped : List Token} (h : t ∉ skipped)
    (rest : List Token) : (skipped ++ t :: rest).dropWhile (· ≠ t) = t :: rest := by
  rw [List.dropWhile_append_of_pos fun u hu => decide_eq_true (ne_of_mem_of_not_mem hu h)]
  simp

/-- **Reading an accessor back** gives its name, its parameters, what it hands out, and a body
that clones the field if there is no parameter and otherwise looks up the child for all of them. -/
theorem readMethod_tokens {a : Accessor} (h : ∀ p ∈ a.params, Identifier p) (rt : String) :
    readMethod (a.tokens rt) = some a.toMethod := by
  have hskipped : (a.attributes ++ a.method rt).dropWhile (· ≠ code "pub") = a.method rt :=
    dropWhile_ne_append (a.notMem_attributes (by decide)) _
  have hstart (rest : List Token) : strip ["pub", "fn"] (code "pub" :: code "fn" :: rest) =
      some rest := strip_codes _ rest
  have houtput (rest : List Token) : clientName (clientItem rt [a.child] ++ rest) =
      some (a.child, rest) := clientName_clientItem rt a.child rest
  rw [readMethod, a.tokens_eq, hskipped, Accessor.method, hstart]
  simp [word, readParams_commaSeparated h, houtput, readBody_bodyTokens h, Accessor.toMethod]

/-! ## Constructors -/

theorem readLabels_none {tokens : List Token} (h : code "&" ∉ tokens) :
    readLabels tokens = some [] := by
  have hskipped : tokens.dropWhile (· ≠ code "&") = [] := by
    rw [List.dropWhile_eq_nil_iff]
    intro t ht
    exact decide_eq_true (ne_of_mem_of_not_mem ht h)
  rw [readLabels, hskipped]
  rfl

theorem readLabels_listed {before : List Token} (h : code "&" ∉ before) {labels : List String}
    (hne : labels ≠ []) (rest : List Token) :
    readLabels (before ++ code "&" :: code "[" ::
      (commaSeparated (labels.map fun label => [text label]) ++ code "]" :: rest)) =
        some labels := by
  have hopen (inside : List Token) :
      strip ["&", "["] (code "&" :: code "[" :: inside) = some inside :=
    strip_codes ["&", "["] inside
  have hitems : ∀ item ∈ labels.map fun label => [text label], ∀ t ∈ item, Inner "]" t := by
    simp [Inner]
  have hlist := splitList_commaSeparated (show "]" ≠ "," by decide)
    (mt List.map_eq_nil_iff.1 hne) hitems rest
  have hread : ∀ label, text? [text label] = some label := fun _ => rfl
  rw [readLabels, dropWhile_ne_append h, hopen]
  simp only [Option.bind_eq_bind, Option.bind_some, hlist, mapM_map hread]

/-- What a constructor passes on behind the name of its type. -/
def Constructor.arguments (rt : String) (c : Constructor) : List Token :=
  if c.labels.isEmpty then
    codes ["::", "with_opts", "("] ++ c.options rt ++ codes [")", "?", ";"]
  else
    codes ["::", "new", "("] ++ c.options rt ++ [code ","] ++ code "&" :: code "[" ::
      (commaSeparated (c.labels.map fun label => [text label]) ++ codes ["]", ")", "?", ";"])

theorem Constructor.tokens_eq (rt : String) (c : Constructor) :
    c.tokens rt = code "let" :: code c.field :: code "=" ::
      (clientItem rt [c.handle] ++ c.arguments rt) := by
  unfold Constructor.tokens Constructor.arguments
  split <;> simp [codes, clientItem, crateItem]

theorem readLabels_arguments {rt : String} (hrt : Identifier rt) (c : Constructor) :
    readLabels (c.arguments rt) = some c.labels := by
  have hoptions := notMem_options foreign_reference (by decide) hrt c
  unfold Constructor.arguments
  split
  · next hnone =>
    rw [List.isEmpty_iff.1 hnone]
    exact readLabels_none (by simp [codes, hoptions])
  · next hsome =>
    exact readLabels_listed (by simp [codes, hoptions]) (mt List.isEmpty_iff.2 hsome)
      (codes [")", "?", ";"])

/-- The building that a constructor is meant to be. -/
def Constructor.toBuilding (c : Constructor) : Building :=
  ⟨c.field, c.handle, c.labels⟩

/-- **Reading a constructor back** gives its field, its type and its labels. -/
theorem readBuilding_tokens {rt : String} (hrt : Identifier rt) (c : Constructor) :
    readBuilding (c.tokens rt) = some c.toBuilding := by
  have hstart (rest : List Token) : strip ["let"] (code "let" :: rest) = some rest :=
    strip_codes ["let"] rest
  have hequals (rest : List Token) : strip ["="] (code "=" :: rest) = some rest :=
    strip_codes ["="] rest
  have hhandle (rest : List Token) : clientName (clientItem rt [c.handle] ++ rest) =
      some (c.handle, rest) := clientName_clientItem rt c.handle rest
  rw [readBuilding, c.tokens_eq, hstart]
  simp [word, hequals, hhandle, readLabels_arguments hrt, Constructor.toBuilding]

end MetricFacade.Rust
