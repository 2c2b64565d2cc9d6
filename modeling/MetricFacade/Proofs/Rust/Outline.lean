import MetricFacade.Proofs.Rust.Reading

/-!
# The outline of source text

Items and statements follow each other without a mark between them. Each ends with a semicolon or
with the brace that closes its body, and either stands outside of all groups. So they are told apart
by how many groups are open, and what stands inside a body is told apart the same way.

Results:

* `Item.entries_append`: an item is split off from what follows.
* `Item.through_succ`: inside a body it is passed over.
* `entries_flatten`: items one after the other are split.
* `block?_braced`: the body of an item.
-/
namespace MetricFacade.Rust

open Ident Token

/-! ## Readers -/

/-- How many groups are open behind a token. -/
def opened (depth : Nat) (t : Token) : Nat :=
  if t ∈ codes ["(", "[", "\x7b"] then depth + 1
  else if t ∈ codes [")", "]", "\x7d"] then depth - 1
  else depth

/-- The token ends an item, if it leaves so many groups open. -/
def EndsItem (depth : Nat) (t : Token) : Prop :=
  depth = 0 ∧ t ∈ codes [";", "\x7d"]

instance (depth : Nat) (t : Token) : Decidable (EndsItem depth t) :=
  inferInstanceAs (Decidable (_ ∧ _))

/-- The items that some tokens are made of, where `depth` groups are open at their start. What
comes behind the last end is an item as well. -/
def entries (depth : Nat) : List Token → List (List Token)
  | [] => []
  | t :: tokens =>
    if EndsItem (opened depth t) t then [t] :: entries (opened depth t) tokens
    else match entries (opened depth t) tokens with
      | [] => [[t]]
      | first :: rest => (t :: first) :: rest

/-- What stands in the braces of an item that starts with some known tokens. -/
def block? (known : List String) (tokens : List Token) : Option (List Token) :=
  (strip known tokens).bind fun behind =>
    match behind.dropWhile (· ≠ code "\x7b") with
    | [] => none
    | _ :: inside => some inside.dropLast

/-! ## Groups -/

/-- How many groups are open behind some tokens, unless an item ends on the way. -/
def through (depth : Nat) : List Token → Option Nat
  | [] => some depth
  | t :: tokens =>
    if EndsItem (opened depth t) t then none else through (opened depth t) tokens

section Through

variable (depth : Nat) (tokens : List Token)

@[simp] theorem through_nil : through depth [] = some depth := rfl

@[simp] theorem through_append (before : List Token) :
    through depth (before ++ tokens) = (through depth before).bind (through · tokens) := by
  induction before generalizing depth with
  | nil => rfl
  | cons t before ih =>
    rw [List.cons_append, through, through]
    split
    · rfl
    · exact ih _

/-- The marks that a group or an item starts or ends with. -/
def structural : List String := ["(", "[", "\x7b", ")", "]", "\x7d", ";"]

theorem through_other {spelling : String} (h : spelling ∉ structural) :
    through depth (code spelling :: tokens) = through depth tokens := by
  simp only [structural, List.mem_cons, List.not_mem_nil, or_false, not_or] at h
  simp [through, opened, EndsItem, h]

@[simp] theorem through_text (value : String) :
    through depth (text value :: tokens) = through depth tokens := by
  simp [through, opened, EndsItem, codes]

@[simp] theorem through_rawText (value : String) :
    through depth (rawText value :: tokens) = through depth tokens := by
  simp [through, opened, EndsItem, codes]

@[simp] theorem through_open {spelling : String} (h : spelling ∈ ["(", "[", "\x7b"]) :
    through depth (code spelling :: tokens) = through (depth + 1) tokens := by
  have hopened : opened depth (code spelling) = depth + 1 := if_pos (code_mem_codes.2 h)
  rw [through, hopened, if_neg fun hends => Nat.succ_ne_zero depth hends.1]

@[simp] theorem through_close {spelling : String} (h : spelling ∈ [")", "]"]) :
    through (depth + 1) (code spelling :: tokens) = through depth tokens := by
  have hall : ∀ s ∈ [")", "]"], s ∉ ["(", "[", "\x7b"] ∧ s ∈ [")", "]", "\x7d"] ∧
      s ∉ [";", "\x7d"] := by decide
  obtain ⟨hopen, hclose, hends⟩ := hall spelling h
  have hopened : opened (depth + 1) (code spelling) = depth := by
    rw [opened, if_neg (mt code_mem_codes.1 hopen), if_pos (code_mem_codes.2 hclose),
      Nat.add_sub_cancel]
  rw [through, hopened, if_neg fun h => hends (code_mem_codes.1 h.2)]

@[simp] theorem through_brace :
    through (depth + 2) (code "\x7d" :: tokens) = through (depth + 1) tokens := by
  simp [through, opened, EndsItem, codes]

@[simp] theorem through_semicolon :
    through (depth + 1) (code ";" :: tokens) = through (depth + 1) tokens := by
  simp [through, opened, EndsItem, codes]

end Through

/-- All groups that the tokens open are closed again, and no item ends in between. -/
def Level (tokens : List Token) : Prop :=
  ∀ depth, through depth tokens = some depth

theorem level_commaSeparated {items : List (List Token)} (h : ∀ item ∈ items, Level item) :
    Level (commaSeparated items) := by
  intro depth
  induction items with
  | nil => rfl
  | cons item items ih =>
    obtain ⟨hitem, hitems⟩ := List.forall_mem_cons.1 h
    cases items with
    | nil => exact hitem depth
    | cons next items =>
      rw [commaSeparated_cons_cons, through_append, hitem depth, Option.bind_some,
        through_other _ _ (by decide), ih hitems]

theorem level_commaTerminated {items : List (List Token)} (h : ∀ item ∈ items, Level item) :
    Level (commaTerminated items) := by
  intro depth
  induction items with
  | nil => rfl
  | cons item items ih =>
    obtain ⟨hitem, hitems⟩ := List.forall_mem_cons.1 h
    rw [commaTerminated, List.flatMap_cons, through_append, through_append, hitem depth,
      Option.bind_some, through_other _ _ (by decide), through_nil, Option.bind_some]
    exact ih hitems

/-! ## Items -/

/-- The tokens are one item: an end stands behind them and nowhere before. -/
inductive Item : List Token → Prop where
  -- Both say something for every depth: an item also stands inside the braces of another.
  | statement {tokens : List Token} (h : Level tokens) : Item (tokens ++ [code ";"])
  | block {head body : List Token} (hhead : Level head)
      (hbody : ∀ depth, through (depth + 1) body = some (depth + 1)) : Item (head ++ braced body)

theorem entries_of_through {tokens : List Token} {depth behind : Nat}
    (h : through depth tokens = some behind) {rest first : List Token} {items : List (List Token)}
    (hrest : entries behind rest = first :: items) :
    entries depth (tokens ++ rest) = (tokens ++ first) :: items := by
  induction tokens generalizing depth with
  | nil =>
    obtain rfl : depth = behind := by simpa using h
    exact hrest
  | cons t tokens ih =>
    rw [through] at h
    split at h
    · cases h
    · next hends => rw [List.cons_append, entries, if_neg hends, ih h]; rfl

/-- What is left at the end is an item as well. -/
theorem entries_last {tokens : List Token} (hne : tokens ≠ []) {depth behind : Nat}
    (h : through depth tokens = some behind) : entries depth tokens = [tokens] := by
  induction tokens generalizing depth with
  | nil => exact absurd rfl hne
  | cons t tokens ih =>
    rw [through] at h
    split at h
    · cases h
    · next hends =>
      rw [entries, if_neg hends]
      cases tokens with
      | nil => rfl
      | cons u tokens => rw [ih (List.cons_ne_nil u tokens) h]

theorem braced_eq (head body : List Token) :
    head ++ braced body = (head ++ code "\x7b" :: body) ++ [code "\x7d"] := by
  simp [braced]

namespace Item

variable {tokens : List Token}

/-- An item is split off from what follows. -/
theorem entries_append (h : Item tokens) (rest : List Token) :
    entries 0 (tokens ++ rest) = tokens :: entries 0 rest := by
  cases h with
  | @statement tokens h =>
    have hend : entries 0 (code ";" :: rest) = [code ";"] :: entries 0 rest := rfl
    rw [List.append_assoc]
    exact entries_of_through (h 0) hend
  | @block head body hhead hbody =>
    have hend : entries 1 (code "\x7d" :: rest) = [code "\x7d"] :: entries 0 rest := rfl
    have hthrough : through 0 (head ++ code "\x7b" :: body) = some 1 := by
      rw [through_append, hhead 0, Option.bind_some, through_open _ _ (by decide), hbody 0]
    rw [braced_eq, List.append_assoc]
    exact entries_of_through hthrough hend

/-- Inside a body an item is passed over. -/
theorem through_succ (h : Item tokens) (depth : Nat) :
    through (depth + 1) tokens = some (depth + 1) := by
  cases h with
  | statement h =>
    rw [through_append, h, Option.bind_some, through_semicolon, through_nil]
  | block hhead hbody =>
    rw [braced_eq, through_append, through_append, hhead, Option.bind_some,
      through_open _ _ (by decide), hbody, Option.bind_some, through_brace, through_nil]

end Item

section Items

variable {items : List (List Token)}

theorem entries_flatten (h : ∀ item ∈ items, Item item) (rest : List Token) :
    entries 0 (items.flatten ++ rest) = items ++ entries 0 rest := by
  induction items with
  | nil => rfl
  | cons item items ih =>
    obtain ⟨hitem, hitems⟩ := List.forall_mem_cons.1 h
    rw [List.flatten_cons, List.append_assoc, hitem.entries_append, ih hitems, List.cons_append]

theorem entries_items (h : ∀ item ∈ items, Item item) :
    entries 0 items.flatten = items := by
  have hitems := entries_flatten h []
  rwa [List.append_nil, entries, List.append_nil] at hitems

theorem through_flatten (h : ∀ item ∈ items, Item item) (depth : Nat) :
    through (depth + 1) items.flatten = some (depth + 1) := by
  induction items with
  | nil => rfl
  | cons item items ih =>
    obtain ⟨hitem, hitems⟩ := List.forall_mem_cons.1 h
    rw [List.flatten_cons, through_append, hitem.through_succ, Option.bind_some, ih hitems]

end Items

/-! ## Bodies -/

theorem block?_braced (known : List String) {signature : List Token}
    (h : code "\x7b" ∉ signature) (body : List Token) :
    block? known (codes known ++ (signature ++ braced body)) = some body := by
  have hbehind : (signature ++ braced body).dropWhile (· ≠ code "\x7b") = braced body :=
    dropWhile_ne_append h _
  rw [block?, strip_codes, Option.bind_some, hbehind]
  simp [braced]

theorem block?_of_strip {known : List String} {tokens : List Token} (h : strip known tokens = none) :
    block? known tokens = none := by
  rw [block?, h, Option.bind_none]

theorem block?_of_ne {first : String} {known : List String} {t : Token} {tokens : List Token}
    (h : t ≠ code first) : block? (first :: known) (t :: tokens) = none :=
  block?_of_strip (if_neg h)

end MetricFacade.Rust
