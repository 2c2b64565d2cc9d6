import Mathlib.Data.List.DropRight
import MetricFacade.Json.Writer
import MetricFacade.Proofs.Json.NumberParts

/-!
# Written values read back

A value written at any level is read back from the start of a text, whatever stands behind it,
as long as that cannot be taken for more of a number. The reader gives a text, a number or a
bracket nothing to choose from, so one pass over the value decides every branch it takes. The two
ways to write a value differ in their blanks only, and are read by one argument.

Results:

* `readChars?_escaped`: escaping is undone, control characters and all.
* `laidOut_indented`, `laidOut_compact`: both ways to write a value are layouts.
* `readValue_laidOut`: a value is read as its node, and what follows it stays.
* `read_indented`, `read_compact`: so a whole text gives back the value it was written for.
-/
namespace MetricFacade.Json

open Number

/-! ## Texts -/

theorem hex4?_control : ∀ n < 0x20,
    hexDigits4 n = ['0', '0', (n / 16).digitChar, (n % 16).digitChar] ∧
      hex4? '0' '0' (n / 16).digitChar (n % 16).digitChar = some n := by
  decide

/-- A character that needs no escape. -/
theorem readChars?_plain {c : Char} (rest : List Char) (hquote : c ≠ '"') (hslash : c ≠ '\\')
    (hprinted : ¬ c.toNat < 0x20) :
    readChars? (c :: rest) = (readChars? rest).map fun (cs, rest) => (c :: cs, rest) := by
  rw [readChars?.eq_def]
  split <;> simp_all [Nat.not_lt.2]

theorem readChars?_escapeChar (c : Char) (rest : List Char) :
    readChars? (escapeChar c ++ rest) = (readChars? rest).map fun (cs, rest) => (c :: cs, rest) := by
  unfold escapeChar
  split_ifs with hquote hslash h h h h h hcontrol
  · subst hquote
    rfl
  · subst hslash
    rfl
  iterate 5
    · subst h
      rfl
  · obtain ⟨hdigits, hvalue⟩ := hex4?_control c.toNat hcontrol
    have htrail : isTrailSurrogate c.toNat = false := by
      simp [isTrailSurrogate]
      omega
    have hlead : isLeadSurrogate c.toNat = false := by
      simp [isLeadSurrogate]
      omega
    rw [hdigits]
    simp only [List.cons_append, List.nil_append]
    rw [readChars?]
    simp [hvalue, htrail, hlead]
  · exact readChars?_plain rest hquote hslash hcontrol

theorem readChars?_escaped (cs rest : List Char) :
    readChars? (cs.flatMap escapeChar ++ '"' :: rest) = some (cs, rest) := by
  induction cs with
  | nil => rfl
  | cons c cs ih =>
    rw [List.flatMap_cons, List.append_assoc, readChars?_escapeChar, ih]
    rfl

theorem readText?_quoted (s : String) (rest : List Char) :
    readText? (s.toList.flatMap escapeChar ++ '"' :: rest) = some (s, rest) := by
  simp [readText?, readChars?_escaped]

/-! ## Blanks -/

theorem skipBlanks_append {gap : List Char} (h : ∀ c ∈ gap, isBlank c) (cs : List Char) :
    skipBlanks (gap ++ cs) = skipBlanks cs :=
  List.dropWhile_append_of_pos h

theorem skipBlanks_cons {c : Char} (cs : List Char) (h : isBlank c = false) :
    skipBlanks (c :: cs) = c :: cs :=
  List.dropWhile_cons_of_neg (by simp [h])

theorem skipBlanks_skipBlanks (cs : List Char) : skipBlanks (skipBlanks cs) = skipBlanks cs :=
  List.dropWhile_idempotent isBlank cs

section

variable (number : Bool → NumberParts → Node)

theorem readValue_skipBlanks (fuel : Nat) (cs : List Char) :
    readValue number fuel (skipBlanks cs) = readValue number fuel cs := by
  cases fuel with
  | zero => rfl
  | succ fuel => rw [readValue, readValue, skipBlanks_skipBlanks]

theorem readItems_skipBlanks (fuel : Nat) (cs : List Char) :
    readItems number fuel (skipBlanks cs) = readItems number fuel cs := by
  cases fuel with
  | zero => rfl
  | succ fuel => rw [readItems, readItems, readValue_skipBlanks]

theorem readEntries_skipBlanks (fuel : Nat) (cs : List Char) :
    readEntries number fuel (skipBlanks cs) = readEntries number fuel cs := by
  cases fuel with
  | zero => rfl
  | succ fuel => rw [readEntries, readEntries, skipBlanks_skipBlanks]

theorem readValue_append (fuel : Nat) {gap : List Char} (h : ∀ c ∈ gap, isBlank c) (cs : List Char) :
    readValue number fuel (gap ++ cs) = readValue number fuel cs := by
  rw [← readValue_skipBlanks, skipBlanks_append h, readValue_skipBlanks]

end

/-! ## Values and their nodes -/

mutual

/-- The node that a value is read as. -/
def Value.toNode : Value → Node
  | .null => .null
  | .bool b => .flag b
  | .int n => .int n
  | .double x => .double x
  | .text s => .text s
  | .list items => .list (nodesOf items) true
  | .object fields => .table (entriesOf fields) true

def nodesOf : List Value → List Node
  | [] => []
  | item :: items => item.toNode :: nodesOf items

def entriesOf : List (String × Value) → List (String × Node)
  | [] => []
  | (key, value) :: fields => (key, value.toNode) :: entriesOf fields

end

mutual

theorem ofNode?_toNode : ∀ v : Value, Value.ofNode? v.toNode = some v
  | .null | .bool _ | .int _ | .double _ | .text _ => rfl
  | .list items => by
    rw [Value.toNode, Value.ofNode?, valuesOfNodes?_nodesOf items, Option.map_some]
  | .object fields => by
    rw [Value.toNode, Value.ofNode?, fieldsOfNodes?_entriesOf fields, Option.map_some]

theorem valuesOfNodes?_nodesOf : ∀ items : List Value, valuesOfNodes? (nodesOf items) = some items
  | [] => rfl
  | item :: items => by
    rw [nodesOf, valuesOfNodes?, ofNode?_toNode item, valuesOfNodes?_nodesOf items]
    rfl

theorem fieldsOfNodes?_entriesOf :
    ∀ fields : List (String × Value), fieldsOfNodes? (entriesOf fields) = some fields
  | [] => rfl
  | (key, value) :: fields => by
    rw [entriesOf, fieldsOfNodes?, ofNode?_toNode value, fieldsOfNodes?_entriesOf fields]
    rfl

end

mutual

/-- Every double in the value is finite, so none is written as null. -/
def Value.Finite : Value → Prop
  | .double x => x.isFinite
  | .list items => FiniteItems items
  | .object fields => FiniteFields fields
  | _ => True

def FiniteItems : List Value → Prop
  | [] => True
  | item :: items => item.Finite ∧ FiniteItems items

def FiniteFields : List (String × Value) → Prop
  | [] => True
  | (_, value) :: fields => value.Finite ∧ FiniteFields fields

end

theorem finiteItems_iff {items : List Value} : FiniteItems items ↔ ∀ v ∈ items, v.Finite := by
  induction items with
  | nil => simp [FiniteItems]
  | cons item items ih => simp [FiniteItems, ih]

section

variable (number : Bool → NumberParts → Node)

mutual

/-- The reader of numbers takes every number in the value for what was written. -/
def Value.Restored : Value → Prop
  | .int n => splitNumberNode? number (toString n).toList = some (.int n, [])
  | .double x => x.isFinite ∧ splitNumberNode? number (switching x) = some (.double x, [])
  | .list items => RestoredItems items
  | .object fields => RestoredFields fields
  | _ => True

def RestoredItems : List Value → Prop
  | [] => True
  | item :: items => item.Restored ∧ RestoredItems items

def RestoredFields : List (String × Value) → Prop
  | [] => True
  | (_, value) :: fields => value.Restored ∧ RestoredFields fields

end

end

section

variable {number : Bool → NumberParts → Node}

theorem restoredItems_iff {items : List Value} :
    RestoredItems number items ↔ ∀ v ∈ items, v.Restored number := by
  induction items with
  | nil => simp [RestoredItems]
  | cons item items ih => simp [RestoredItems, ih]

theorem restoredFields_iff {fields : List (String × Value)} :
    RestoredFields number fields ↔ ∀ f ∈ fields, f.2.Restored number := by
  induction fields with
  | nil => simp [RestoredFields]
  | cons field fields ih =>
    obtain ⟨key, value⟩ := field
    simp [RestoredFields, ih]

end

mutual

/-- An inverse of the writer restores all that is finite. -/
theorem Inverse.restored {number : Bool → NumberParts → Node} (h : Inverse number) :
    ∀ v : Value, v.Finite → v.Restored number
  | .null, _ | .bool _, _ | .text _, _ => trivial
  | .int n, _ => h.int n
  | .double x, hx => ⟨hx, h.double x hx⟩
  | .list items, hitems => h.restoredItems items hitems
  | .object fields, hfields => h.restoredFields fields hfields

theorem Inverse.restoredItems {number : Bool → NumberParts → Node} (h : Inverse number) :
    ∀ items : List Value, FiniteItems items → RestoredItems number items
  | [], _ => trivial
  | item :: items, hitems => ⟨h.restored item hitems.1, h.restoredItems items hitems.2⟩

theorem Inverse.restoredFields {number : Bool → NumberParts → Node} (h : Inverse number) :
    ∀ fields : List (String × Value), FiniteFields fields → RestoredFields number fields
  | [], _ => trivial
  | (_, value) :: fields, hfields =>
    ⟨h.restored value hfields.1, h.restoredFields fields hfields.2⟩

end

/-! ## Layouts -/

/-- Where a written value has blanks. -/
structure Layout where
  /-- Before an item at a level, and before the bracket that closes a list at a level. -/
  gap : Nat → List Char
  /-- Behind the colon of a field. -/
  space : List Char
  blank_gap : ∀ level, ∀ c ∈ gap level, isBlank c
  blank_space : ∀ c ∈ space, isBlank c

namespace Layout

/-- No blanks at all. -/
def dense : Layout where
  gap _ := []
  space := []
  blank_gap := by simp
  blank_space := by simp

/-- A line for each item. -/
def lines : Layout where
  gap := newLine
  space := [' ']
  blank_gap := by
    intro level c hc
    rcases List.mem_cons.1 hc with rfl | hspace
    · rfl
    · rw [List.eq_of_mem_replicate hspace]
      rfl
  blank_space := by
    intro c hc
    rw [List.mem_singleton.1 hc]
    rfl

@[simp] theorem gap_dense (level : Nat) : dense.gap level = [] := rfl

@[simp] theorem space_dense : dense.space = [] := rfl

@[simp] theorem gap_lines (level : Nat) : lines.gap level = newLine level := rfl

@[simp] theorem space_lines : lines.space = [' '] := rfl

end Layout

section

variable (l : Layout)

mutual

/-- The text of a value that stands at a level of the layout. -/
def Value.laidOut (level : Nat) : Value → List Char
  | .null => "null".toList
  | .bool b => (toString b).toList
  | .int n => (toString n).toList
  | .double x => doubleChars x
  | .text s => quoted s
  | .list [] => ['[', ']']
  | .list (item :: items) =>
    '[' :: (l.gap (level + 1) ++ (item.laidOut (level + 1)
      ++ (laidOutItems (level + 1) items ++ (l.gap level ++ [']']))))
  | .object [] => ['\x7b', '\x7d']
  | .object ((key, value) :: fields) =>
    '\x7b' :: (l.gap (level + 1) ++ (quoted key ++ ':' :: (l.space ++ (value.laidOut (level + 1)
      ++ (laidOutFields (level + 1) fields ++ (l.gap level ++ ['\x7d']))))))

def laidOutItems (level : Nat) : List Value → List Char
  | [] => []
  | item :: items => ',' :: (l.gap level ++ (item.laidOut level ++ laidOutItems level items))

def laidOutFields (level : Nat) : List (String × Value) → List Char
  | [] => []
  | (key, value) :: fields =>
    ',' :: (l.gap level ++ (quoted key ++ ':' :: (l.space ++ (value.laidOut level
      ++ laidOutFields level fields))))

end

end

mutual

theorem laidOut_indented : ∀ (v : Value) (level : Nat), v.laidOut .lines level = v.indented level
  | .null, _ | .bool _, _ | .int _, _ | .double _, _ | .text _, _ => rfl
  | .list [], _ | .object [], _ => rfl
  | .list (item :: items), level => by
    simp [Value.laidOut, Value.indented, laidOut_indented item, laidOutItems_indented items]
  | .object ((key, value) :: fields), level => by
    simp [Value.laidOut, Value.indented, laidOut_indented value, laidOutFields_indented fields]

theorem laidOutItems_indented :
    ∀ (items : List Value) (level : Nat), laidOutItems .lines level items = indentedItems level items
  | [], _ => rfl
  | item :: items, level => by
    simp [laidOutItems, indentedItems, laidOut_indented item, laidOutItems_indented items]

theorem laidOutFields_indented : ∀ (fields : List (String × Value)) (level : Nat),
    laidOutFields .lines level fields = indentedFields level fields
  | [], _ => rfl
  | (key, value) :: fields, level => by
    simp [laidOutFields, indentedFields, laidOut_indented value, laidOutFields_indented fields]

end

mutual

theorem laidOut_compact : ∀ (v : Value) (level : Nat), v.laidOut .dense level = v.compact
  | .null, _ | .bool _, _ | .int _, _ | .double _, _ | .text _, _ => rfl
  | .list [], _ | .object [], _ => rfl
  | .list (item :: items), level => by
    simp [Value.laidOut, Value.compact, laidOut_compact item, laidOutItems_compact items]
  | .object ((key, value) :: fields), level => by
    simp [Value.laidOut, Value.compact, laidOut_compact value, laidOutFields_compact fields]

theorem laidOutItems_compact :
    ∀ (items : List Value) (level : Nat), laidOutItems .dense level items = compactItems items
  | [], _ => rfl
  | item :: items, level => by
    simp [laidOutItems, compactItems, laidOut_compact item, laidOutItems_compact items]

theorem laidOutFields_compact : ∀ (fields : List (String × Value)) (level : Nat),
    laidOutFields .dense level fields = compactFields fields
  | [], _ => rfl
  | (key, value) :: fields, level => by
    simp [laidOutFields, compactFields, laidOut_compact value, laidOutFields_compact fields]

end

/-! ## Reading what is written -/

section

variable {number : Bool → NumberParts → Node} {rest : List Char}

/-- A number begins like nothing else does. -/
theorem number_start_ne {c d : Char} (hc : c = '-' ∨ isDigit c) (hd : d ≠ '-' ∧ isDigit d = false) :
    c ≠ d := by
  rintro rfl
  rcases hc with rfl | hc
  · exact hd.1 rfl
  · exact absurd hc (by simp [hd.2])

theorem number_start_not_blank {c : Char} (hc : c = '-' ∨ isDigit c) : isBlank c = false := by
  have hne : ∀ d ∈ [' ', '\t', '\n', '\r'], c ≠ d := by
    intro d hd
    have hmarks : ∀ d ∈ [' ', '\t', '\n', '\r'], d ≠ '-' ∧ isDigit d = false := by
      simp [isDigit]
    exact number_start_ne hc (hmarks d hd)
  simp [isBlank, hne]

theorem readValue_number {cs : List Char} {node : Node} (fuel : Nat) (hnode : node ≠ .unreadable)
    (hstop : Stops rest) (h : splitNumberNode? number cs = some (node, [])) :
    readValue number (fuel + 1) (cs ++ rest) = (node, some rest) := by
  have happend := splitNumberNode?_append hstop h
  obtain ⟨c, cs, rfl, hc⟩ := splitNumberNode?_head h
  rw [List.cons_append] at happend ⊢
  rw [readValue, skipBlanks_cons _ (number_start_not_blank hc)]
  split
  iterate 6
    · next heq => exact absurd (List.cons.inj heq).1 (number_start_ne hc (by decide))
  · rw [happend]
    cases node with
    | unreadable => exact absurd rfl hnode
    | _ => rfl

theorem quoted_append (s : String) (rest : List Char) :
    quoted s ++ rest = '"' :: (s.toList.flatMap escapeChar ++ '"' :: rest) := by
  simp [quoted]

theorem readValue_quote (fuel : Nat) (cs : List Char) :
    readValue number (fuel + 1) ('"' :: cs) =
      match readText? cs with
      | some (s, rest) => (.text s, some rest)
      | none => (.unreadable, none) := by
  rw [readValue, skipBlanks_cons _ rfl]
  rfl

theorem readValue_text (fuel : Nat) (s : String) :
    readValue number (fuel + 1) (quoted s ++ rest) = (.text s, some rest) := by
  rw [quoted_append, readValue_quote, readText?_quoted]

theorem readValue_bracket (fuel : Nat) (cs : List Char) :
    readValue number (fuel + 1) ('[' :: cs) =
      match skipBlanks cs with
      | ']' :: rest => (.list [] true, some rest)
      | rest => (.list (readItems number fuel rest).1 (readItems number fuel rest).2.isSome,
          (readItems number fuel rest).2) := by
  rw [readValue, skipBlanks_cons _ rfl]
  rfl

/-- The bracket of a list that is not empty. -/
theorem readValue_items (fuel : Nat) {cs : List Char} (hstart : (skipBlanks cs).head? ≠ some ']') :
    readValue number (fuel + 1) ('[' :: cs) =
      (.list (readItems number fuel cs).1 (readItems number fuel cs).2.isSome,
        (readItems number fuel cs).2) := by
  rw [readValue_bracket]
  split
  · next heq =>
    rw [heq] at hstart
    exact absurd rfl hstart
  · rw [readItems_skipBlanks]

theorem readValue_brace (fuel : Nat) (cs : List Char) :
    readValue number (fuel + 1) ('\x7b' :: cs) =
      match skipBlanks cs with
      | '\x7d' :: rest => (.table [] true, some rest)
      | rest => (.table (readEntries number fuel rest).1 (readEntries number fuel rest).2.isSome,
          (readEntries number fuel rest).2) := by
  rw [readValue, skipBlanks_cons _ rfl]
  rfl

/-- The brace of a table that is not empty. -/
theorem readValue_entries (fuel : Nat) {cs : List Char} (hstart : (skipBlanks cs).head? ≠ some '\x7d') :
    readValue number (fuel + 1) ('\x7b' :: cs) =
      (.table (readEntries number fuel cs).1 (readEntries number fuel cs).2.isSome,
        (readEntries number fuel cs).2) := by
  rw [readValue_brace]
  split
  · next heq =>
    rw [heq] at hstart
    exact absurd rfl hstart
  · rw [readEntries_skipBlanks]

section Steps

variable {fuel : Nat} {cs behind next : List Char} {key : String} {node : Node}

theorem readItems_last (hitem : readValue number fuel cs = (node, some behind))
    (hclose : skipBlanks behind = ']' :: rest) :
    readItems number (fuel + 1) cs = ([node], some rest) := by
  rw [readItems, hitem]
  dsimp only
  rw [Option.map_some, hclose]
  rfl

theorem readItems_next (hitem : readValue number fuel cs = (node, some behind))
    (hcomma : skipBlanks behind = ',' :: next) {nodes : List Node}
    (hnext : readItems number fuel next = (nodes, some rest)) :
    readItems number (fuel + 1) cs = (node :: nodes, some rest) := by
  rw [readItems, hitem]
  dsimp only
  rw [Option.map_some, hcomma]
  change (node :: (readItems number fuel next).1, (readItems number fuel next).2) = _
  rw [hnext]

/-- A field up to the end of its value. -/
theorem readEntries_field (l : Layout) (level : Nat) (key : String) (fuel : Nat) (cs : List Char) :
    readEntries number (fuel + 1) (l.gap level ++ (quoted key ++ ':' :: (l.space ++ cs))) =
      match (readValue number fuel cs).2.map skipBlanks with
      | some (',' :: rest) =>
        ((key, (readValue number fuel cs).1) :: (readEntries number fuel rest).1,
          (readEntries number fuel rest).2)
      | some ('\x7d' :: rest) => ([(key, (readValue number fuel cs).1)], some rest)
      | _ => ([(key, (readValue number fuel cs).1)], none) := by
  have hspace := readValue_append number fuel l.blank_space cs
  rw [readEntries, skipBlanks_append (l.blank_gap level), quoted_append, skipBlanks_cons _ rfl]
  split
  · next text htext =>
    obtain rfl := (List.cons.inj htext).2
    rw [readText?_quoted]
    dsimp only
    rw [skipBlanks_cons _ rfl]
    split
    · next behind hbehind =>
      obtain rfl := (List.cons.inj hbehind).2
      rewrite [hspace]
      rfl
    · next hcolon => exact absurd rfl (hcolon _)
  · next hquote => exact absurd rfl (hquote _)

variable {l : Layout} {level : Nat}

theorem readEntries_last (hvalue : readValue number fuel cs = (node, some behind))
    (hclose : skipBlanks behind = '\x7d' :: rest) :
    readEntries number (fuel + 1) (l.gap level ++ (quoted key ++ ':' :: (l.space ++ cs))) =
      ([(key, node)], some rest) := by
  rw [readEntries_field, hvalue, Option.map_some, hclose]
  rfl

theorem readEntries_next (hvalue : readValue number fuel cs = (node, some behind))
    (hcomma : skipBlanks behind = ',' :: next) {entries : List (String × Node)}
    (hnext : readEntries number fuel next = (entries, some rest)) :
    readEntries number (fuel + 1) (l.gap level ++ (quoted key ++ ':' :: (l.space ++ cs))) =
      ((key, node) :: entries, some rest) := by
  rw [readEntries_field, hvalue, Option.map_some, hcomma]
  change ((key, node) :: (readEntries number fuel next).1, (readEntries number fuel next).2) = _
  rw [hnext]

end Steps

theorem doubleChars_of_isFinite {x : Float} (h : x.isFinite) : doubleChars x = switching x :=
  if_pos h

section Laid

variable (l : Layout)

/-- No value begins like the end of a list. -/
theorem laidOut_start {v : Value} (hv : v.Restored number) (level : Nat) :
    ∃ c cs, v.laidOut l level = c :: cs ∧ isBlank c = false ∧ c ≠ ']' := by
  have hnumber : ∀ {cs node}, splitNumberNode? number cs = some (node, []) →
      ∃ c cs', cs = c :: cs' ∧ isBlank c = false ∧ c ≠ ']' := by
    intro cs node hsplit
    obtain ⟨c, cs, rfl, hc⟩ := splitNumberNode?_head hsplit
    exact ⟨c, cs, rfl, number_start_not_blank hc, number_start_ne hc (by decide)⟩
  cases v with
  | null => exact ⟨_, _, rfl, rfl, by decide⟩
  | bool b => cases b <;> exact ⟨_, _, rfl, rfl, by decide⟩
  | int n => exact hnumber hv
  | double x =>
    rw [Value.laidOut, doubleChars_of_isFinite hv.1]
    exact hnumber hv.2
  | text s => exact ⟨_, _, rfl, rfl, by decide⟩
  | list items => cases items <;> exact ⟨_, _, rfl, rfl, by decide⟩
  | object fields => cases fields <;> exact ⟨_, _, rfl, rfl, by decide⟩

theorem stops_gap (level : Nat) {c : Char} (hc : c = ']' ∨ c = '\x7d') (cs : List Char) :
    Stops (l.gap level ++ c :: cs) := by
  cases hgap : l.gap level with
  | nil => rcases hc with rfl | rfl <;> exact stops_cons (by decide)
  | cons d ds =>
    have hblank : isBlank d := l.blank_gap level d (hgap ▸ List.mem_cons_self)
    refine stops_cons ?_
    simp only [isBlank, Bool.or_eq_true, decide_eq_true_eq] at hblank
    rcases hblank with ((rfl | rfl) | rfl) | rfl <;> decide

theorem stops_laidOutItems (level below : Nat) (items : List Value) (cs : List Char) :
    Stops (laidOutItems l level items ++ (l.gap below ++ ']' :: cs)) := by
  cases items with
  | nil => exact stops_gap l below (.inl rfl) cs
  | cons item items => exact stops_cons (by decide)

theorem stops_laidOutFields (level below : Nat) (fields : List (String × Value)) (cs : List Char) :
    Stops (laidOutFields l level fields ++ (l.gap below ++ '\x7d' :: cs)) := by
  cases fields with
  | nil => exact stops_gap l below (.inr rfl) cs
  | cons field fields => exact stops_cons (by decide)

theorem skipBlanks_gap (level : Nat) {c : Char} (hc : isBlank c = false) (cs : List Char) :
    skipBlanks (l.gap level ++ c :: cs) = c :: cs := by
  rw [skipBlanks_append (l.blank_gap level), skipBlanks_cons _ hc]

theorem laidOut_list (level : Nat) (item : Value) (items : List Value) (rest : List Char) :
    (Value.list (item :: items)).laidOut l level ++ rest =
      '[' :: (l.gap (level + 1) ++ (item.laidOut l (level + 1)
        ++ (laidOutItems l (level + 1) items ++ (l.gap level ++ ']' :: rest)))) := by
  simp [Value.laidOut]

theorem laidOut_object (level : Nat) (key : String) (value : Value) (fields : List (String × Value))
    (rest : List Char) :
    (Value.object ((key, value) :: fields)).laidOut l level ++ rest =
      '\x7b' :: (l.gap (level + 1) ++ (quoted key ++ ':' :: (l.space ++ (value.laidOut l (level + 1)
        ++ (laidOutFields l (level + 1) fields ++ (l.gap level ++ '\x7d' :: rest)))))) := by
  simp [Value.laidOut]

/-! The length of a text bounds the depth at which it is read: every bracket takes one step, and so
does every comma. -/

mutual

theorem readValue_laidOut : ∀ (v : Value) (level fuel : Nat) (rest : List Char),
    v.Restored number → Stops rest → (v.laidOut l level).length ≤ fuel →
      readValue number fuel (v.laidOut l level ++ rest) = (v.toNode, some rest)
  | v, level, 0, _, hv, _, hfuel => by
    obtain ⟨c, cs, hc, -⟩ := laidOut_start l hv level
    simp [hc] at hfuel
  | .null, _, _ + 1, _, _, _, _ => rfl
  | .bool true, _, _ + 1, _, _, _, _ => rfl
  | .bool false, _, _ + 1, _, _, _, _ => rfl
  | .int n, _, fuel + 1, _, hn, hstop, _ => readValue_number fuel (by simp [Value.toNode]) hstop hn
  | .double x, level, fuel + 1, rest, hx, hstop, _ => by
    rw [Value.laidOut, doubleChars_of_isFinite hx.1]
    exact readValue_number fuel (by simp [Value.toNode]) hstop hx.2
  | .text s, _, fuel + 1, _, _, _, _ => readValue_text fuel s
  | .list [], _, _ + 1, _, _, _, _ => rfl
  | .list (item :: items), level, fuel + 1, rest, hitems, _, hfuel => by
    have hread := readItems_laidOut (item :: items) (level + 1) level fuel _ rest hitems rfl
      (by simp [Value.laidOut] at hfuel ⊢; omega)
    have hstart : (skipBlanks (l.gap (level + 1) ++ (item.laidOut l (level + 1)
        ++ (laidOutItems l (level + 1) items ++ (l.gap level ++ ']' :: rest))))).head? ≠ some ']' := by
      obtain ⟨c, cs, hc, hblank, hne⟩ := laidOut_start l hitems.1 (level + 1)
      rw [hc, List.cons_append, skipBlanks_gap l (level + 1) hblank]
      simpa using hne
    rw [List.append_assoc, List.append_assoc] at hread
    rw [laidOut_list, readValue_items fuel hstart, hread]
    rfl
  | .object [], _, _ + 1, _, _, _, _ => rfl
  | .object ((key, value) :: fields), level, fuel + 1, rest, hfields, _, hfuel => by
    have hread := readEntries_laidOut ((key, value) :: fields) (level + 1) level fuel _ rest hfields rfl
      (by simp [Value.laidOut] at hfuel ⊢; omega)
    have hstart : (skipBlanks (l.gap (level + 1) ++ (quoted key ++ ':' :: (l.space
        ++ (value.laidOut l (level + 1) ++ (laidOutFields l (level + 1) fields
        ++ (l.gap level ++ '\x7d' :: rest))))))).head? ≠ some '\x7d' := by
      rw [quoted_append, skipBlanks_gap l (level + 1) rfl]
      simp
    simp only [List.append_assoc, List.cons_append] at hread
    rw [laidOut_object, readValue_entries fuel hstart, hread]
    rfl

theorem readItems_laidOut :
    ∀ (items : List Value) (level below fuel : Nat) (cs rest : List Char),
      RestoredItems number items → laidOutItems l level items = ',' :: cs → cs.length < fuel →
        readItems number fuel (cs ++ (l.gap below ++ ']' :: rest)) = (nodesOf items, some rest)
  | [], _, _, _, _, _, _, hcs, _ => by cases hcs
  | _, _, _, 0, _, _, _, _, hfuel => absurd hfuel (Nat.not_lt_zero _)
  | item :: items, level, below, fuel + 1, cs, rest, hitems, hcs, hfuel => by
    obtain rfl := (List.cons.inj hcs).2
    simp only [List.length_append] at hfuel
    have hitem := readValue_laidOut item level fuel
      (laidOutItems l level items ++ (l.gap below ++ ']' :: rest)) hitems.1
      (stops_laidOutItems l level below items rest) (by omega)
    rw [← readValue_append number fuel (l.blank_gap level)] at hitem
    rw [List.append_assoc, List.append_assoc]
    cases items with
    | nil => exact readItems_last hitem (skipBlanks_gap l below rfl rest)
    | cons next items =>
      have hrest := readItems_laidOut (next :: items) level below fuel _ rest hitems.2 rfl
        (by simp [laidOutItems] at hfuel ⊢; omega)
      exact readItems_next hitem (skipBlanks_cons _ rfl) hrest

theorem readEntries_laidOut :
    ∀ (fields : List (String × Value)) (level below fuel : Nat) (cs rest : List Char),
      RestoredFields number fields → laidOutFields l level fields = ',' :: cs → cs.length < fuel →
        readEntries number fuel (cs ++ (l.gap below ++ '\x7d' :: rest)) = (entriesOf fields, some rest)
  | [], _, _, _, _, _, _, hcs, _ => by cases hcs
  | _, _, _, 0, _, _, _, _, hfuel => absurd hfuel (Nat.not_lt_zero _)
  | (key, value) :: fields, level, below, fuel + 1, cs, rest, hfields, hcs, hfuel => by
    obtain rfl := (List.cons.inj hcs).2
    simp only [List.length_append, List.length_cons] at hfuel
    have hvalue := readValue_laidOut value level fuel
      (laidOutFields l level fields ++ (l.gap below ++ '\x7d' :: rest)) hfields.1
      (stops_laidOutFields l level below fields rest) (by omega)
    simp only [List.append_assoc, List.cons_append]
    cases fields with
    | nil => exact readEntries_last hvalue (skipBlanks_gap l below rfl rest)
    | cons next fields =>
      obtain ⟨nextKey, nextValue⟩ := next
      have hrest := readEntries_laidOut ((nextKey, nextValue) :: fields) level below fuel _ rest
        hfields.2 rfl (by simp [laidOutFields] at hfuel ⊢; omega)
      exact readEntries_next hvalue (skipBlanks_cons _ rfl) hrest

end

end Laid

/-! ## Whole texts -/

/-- The document of a text that holds a value and blanks behind it. -/
theorem read_laidOut (l : Layout) {v : Value} (hv : v.Restored number) (hrest : ∀ c ∈ rest, isBlank c)
    (hstop : Stops rest) :
    read number (String.ofList (v.laidOut l 0 ++ rest)) = ⟨v.toNode, true⟩ := by
  have hread := readValue_laidOut l v 0 (2 * (v.laidOut l 0 ++ rest).length + 1) rest hv hstop
    (by simp; omega)
  have hend := skipBlanks_append hrest []
  rw [List.append_nil] at hend
  simp only [read, String.toList_ofList, hread, Option.any_some, hend]
  rfl

theorem read_compact {v : Value} (hv : v.Restored number) :
    read number (String.ofList v.compact) = ⟨v.toNode, true⟩ := by
  have hread := @read_laidOut _ [] .dense _ hv (by simp) (by simp [Stops])
  rwa [List.append_nil, laidOut_compact] at hread

theorem read_indented {v : Value} (hv : v.Restored number) :
    read number (String.ofList (v.indented 0 ++ ['\n'])) = ⟨v.toNode, true⟩ := by
  rw [← laidOut_indented]
  exact read_laidOut .lines hv (by simp [isBlank]) (stops_cons (by decide))

/-- A text is read back as the value it was written for. -/
theorem parse?_indented (h : Inverse number) {v : Value} (hv : v.Finite) :
    parse? number (String.ofList (v.indented 0 ++ ['\n'])) = some v := by
  rw [parse?, read_indented (h.restored v hv)]
  exact ofNode?_toNode v

end

end MetricFacade.Json
