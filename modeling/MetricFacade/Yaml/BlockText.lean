import MetricFacade.Number.Reading
import MetricFacade.Yaml.Cursor

/-!
# YAML block scalars

Lines of text below a `|` or a `>`, told from what follows by their indentation. A literal
one keeps its line breaks; a folded one turns a single break between two lines that begin
with no blank into a space. The header may give the indentation, and say what becomes of
the breaks at the end: one is kept, none is, or all are.
-/
namespace MetricFacade.Yaml

inductive Chomping where
  | clip
  | strip
  | keep
  deriving Repr, DecidableEq

/-- The characters behind `|` or `>` that say how to read the lines. -/
structure BlockHeader where
  chomping : Chomping := .clip
  /-- How much further in than what surrounds it the text stands. -/
  increment : Option Nat := none

def chomping? : Char → Option Chomping
  | '+' => some .keep
  | '-' => some .strip
  | _ => none

def increment? (c : Char) : Option Nat :=
  if Number.isDigit c && c ≠ '0' then some (Number.digitValue c) else none

/-- The header and the cursor past it: the two signs in either order. -/
def blockHeader (c : Cursor) : BlockHeader × Cursor :=
  match c.rest with
  | a :: b :: _ =>
    match chomping? a, increment? a with
    | some chomping, _ =>
      match increment? b with
      | some n => (⟨chomping, some n⟩, c.skip 2)
      | none => (⟨chomping, none⟩, c.skip 1)
    | none, some n =>
      match chomping? b with
      | some chomping => (⟨chomping, some n⟩, c.skip 2)
      | none => (⟨.clip, some n⟩, c.skip 1)
    | none, none => ({}, c)
  | [a] =>
    match chomping? a, increment? a with
    | some chomping, _ => (⟨chomping, none⟩, c.skip 1)
    | none, some n => (⟨.clip, some n⟩, c.skip 1)
    | none, none => ({}, c)
  | [] => ({}, c)

/-- At most `count` spaces passed over, all of them if there is no limit. -/
def skipSpaces (limit : Option Nat) (c : Cursor) : Cursor :=
  let spaces := (c.rest.takeWhile isSpace).length
  match limit with
  | none => c.skip spaces
  | some column => c.skip (min spaces (column - c.column))

/-- Empty lines: their breaks, the cursor at the first character behind them and their
indentation, and the greatest column met. -/
def emptyLines (indent : Option Nat) : Nat → List Char → Nat → Cursor →
    Option (List Char × Nat × Cursor)
  | 0, _, _, _ => none
  | fuel + 1, breaks, greatest, c =>
    let c := skipSpaces indent c
    let greatest := max greatest c.column
    let inside := match indent with
      | none => true
      | some column => c.column < column
    match c.rest with
    | [] => some (breaks, greatest, c)
    | b :: _ =>
      if inside && b = '\t' then none
      else if isBreak b then
        let (read, c) := c.takeBreak
        emptyLines indent fuel (breaks ++ read) greatest c
      else some (breaks, greatest, c)

/-- The text read so far, and the line breaks behind it of which it is not yet known what they
read as. -/
structure BlockLines where
  chars : List Char := []
  first : List Char := []
  further : List Char := []
  /-- The last line begins with a blank. -/
  blankStart : Bool := false

/-- The lines at the column `indent`, behind those of `lines`. -/
def blockLines (literal : Bool) (indent : Nat) : Nat → BlockLines → Cursor →
    Option (BlockLines × Cursor)
  | 0, _, _ => none
  | fuel + 1, lines, c =>
    match c.rest with
    | [] => some (lines, c)
    | b :: _ =>
      if c.column ≠ indent then some (lines, c)
      else
        let blankStart := isBlank b
        let gap :=
          if !literal && lines.first = ['\n'] && !lines.blankStart && !blankStart then
            if lines.further.isEmpty then [' '] else lines.further
          else lines.first ++ lines.further
        let line := c.rest.takeWhile (!isBreak ·)
        let (first, c) := c.skipToLineEnd.takeBreak
        match emptyLines (some indent) (c.rest.length + 1) [] 0 c with
        | none => none
        | some (further, _, c) =>
          blockLines literal indent fuel
            ⟨lines.chars ++ gap ++ line, first, further, blankStart⟩ c

/-- The text with the breaks at its end that the header asks for. -/
def BlockLines.finish (chomping : Chomping) (lines : BlockLines) : List Char :=
  match chomping with
  | .clip => lines.chars ++ lines.first
  | .strip => lines.chars
  | .keep => lines.chars ++ lines.first ++ lines.further

/-- The block scalar whose `|` or `>` stands at the cursor. `parent` is the indentation of what
surrounds it, if it has any. -/
def blockText (literal : Bool) (parent : Option Nat) (c : Cursor) :
    Option (List Char × Cursor) := do
  let (header, c) := blockHeader (c.skip 1)
  let c := c.skipWhile isBlank
  let c := if c.rest.head? = some '#' then c.skipToLineEnd else c
  if !atLineEnd c.rest then none
  let c := c.takeBreak.2
  let given := header.increment.map fun n => (parent.getD 0) + n
  let (breaks, greatest, c) ← emptyLines given (c.rest.length + 1) [] 0 c
  let least := match parent with
    | some column => column + 1
    | none => 1
  let indent := given.getD (max greatest (max least 1))
  let (lines, c) ← blockLines literal indent (c.rest.length + 1) { further := breaks } c
  return (lines.finish header.chomping, c)

end MetricFacade.Yaml
