import MetricFacade.Number.Reading
import MetricFacade.Toml.Text
import MetricFacade.Yaml.Cursor
import MetricFacade.Yaml.Token

/-!
# Tags, anchors and directives in a YAML text

A tag is written in full between angle brackets, or begins with a handle: `!`, `!!`, or a
word between two exclamation marks. Directives before a document say what a handle stands
for and which version of YAML the text is in.
-/
namespace MetricFacade.Yaml

/-- Letters, digits, `_` and `-`. -/
def isNameChar (c : Char) : Bool :=
  c.isAlphanum || c = '_' || c = '-'

/-- The name at the cursor and the cursor past it. -/
def takeName (c : Cursor) : List Char × Cursor :=
  (c.rest.takeWhile isNameChar, c.skipWhile isNameChar)

/-- What may stand directly behind the name of an anchor. -/
def endsAnchor (cs : List Char) : Bool :=
  atBlank cs || cs.head?.any fun c => c ∈ ['?', ':', ',', ']', '\x7d', '%', '@', '`']

/-- The name of the anchor or alias whose mark stands at the cursor. -/
def anchorName (c : Cursor) : Option (String × Cursor) :=
  let (name, c) := takeName (c.skip 1)
  if name.isEmpty || !endsAnchor c.rest then none else some (String.ofList name, c)

/-! ## Tags -/

/-- The character may stand in a tag as it is. In a tag written in full so may commas and
square brackets. -/
def isTagChar (full : Bool) (c : Char) : Bool :=
  isNameChar c
    || c ∈ [';', '/', '?', ':', '@', '&', '=', '+', '$', '.', '!', '~', '*', '\'', '(', ')']
    || (full && c ∈ [',', '[', ']'])

/-- The number of two hexadecimal digits behind a percent sign. -/
def escapedByte? : List Char → Option (Nat × List Char)
  | '%' :: a :: b :: rest => do
    return (16 * (← Json.hexValue? a) + (← Json.hexValue? b), rest)
  | _ => none

/-- How many bytes the UTF-8 form of a character has that begins with this one. -/
def encodedLength? (byte : Nat) : Option Nat :=
  if byte < 0x80 then some 1
  else if 0xc0 ≤ byte ∧ byte < 0xe0 then some 2
  else if 0xe0 ≤ byte ∧ byte < 0xf0 then some 3
  else if 0xf0 ≤ byte ∧ byte < 0xf8 then some 4
  else none

/-- The code point after `count` more bytes of its UTF-8 form. -/
def furtherBytes? : Nat → Nat → List Char → Option (Nat × List Char)
  | 0, point, cs => some (point, cs)
  | count + 1, point, cs => do
    let (byte, cs) ← escapedByte? cs
    if 0x80 ≤ byte ∧ byte < 0xc0 then furtherBytes? count (64 * point + (byte - 0x80)) cs
    else none

/-- The character that escaped bytes at the start stand for. -/
def escapedChar? (cs : List Char) : Option (Char × List Char) := do
  let (byte, cs) ← escapedByte? cs
  let length ← encodedLength? byte
  let high := if length = 1 then byte else byte % Nat.pow 2 (7 - length)
  let (point, cs) ← furtherBytes? (length - 1) high cs
  return (← Toml.charOf? point, cs)

/-- The characters of a tag and what follows them. -/
def tagChars (full : Bool) : Nat → List Char → Option (List Char × List Char)
  | 0, _ => none
  | fuel + 1, cs =>
    match cs with
    | '%' :: _ => do
      let (c, rest) ← escapedChar? cs
      let (more, rest) ← tagChars full fuel rest
      return (c :: more, rest)
    | c :: rest =>
      if isTagChar full c then (tagChars full fuel rest).map fun (more, rest) => (c :: more, rest)
      else some ([], cs)
    | [] => some ([], [])

def takeTagChars (full : Bool) (c : Cursor) : Option (List Char × Cursor) :=
  (tagChars full (c.rest.length + 1) c.rest).map fun (cs, rest) => (cs, c.moveTo rest)

/-- The exclamation mark at the cursor, the name behind it, and one more mark if there is one. -/
def takeHandle (c : Cursor) : List Char × Cursor :=
  let (name, c) := takeName (c.skip 1)
  if c.rest.head? = some '!' then ('!' :: name ++ ['!'], c.skip 1) else ('!' :: name, c)

/-- A handle ends in an exclamation mark of its own. -/
def isClosedHandle (handle : List Char) : Bool :=
  1 < handle.length && handle.getLast? = some '!'

/-- The tag at the cursor. -/
def writtenTag (c : Cursor) : Option (WrittenTag × Cursor) := do
  if (c.rest.drop 1).head? = some '<' then
    let (uri, c) ← takeTagChars true (c.skip 2)
    if uri.isEmpty ∨ c.rest.head? ≠ some '>' then none
    else return (⟨"", String.ofList uri⟩, c.skip 1)
  else
    let (handle, c) := takeHandle c
    let (suffix, c) ← takeTagChars false c
    if isClosedHandle handle then
      if suffix.isEmpty then none else return (⟨String.ofList handle, String.ofList suffix⟩, c)
    else
      let suffix := handle.drop 1 ++ suffix
      if suffix.isEmpty then return (⟨"", "!"⟩, c) else return (⟨"!", String.ofList suffix⟩, c)

/-! ## Directives -/

/-- A number of a version: at most nine digits. -/
def versionNumber? (c : Cursor) : Option (Nat × Cursor) :=
  let ds := c.rest.takeWhile Number.isDigit
  if ds.isEmpty || 9 < ds.length then none
  else some (Number.ofDigits ds, c.skipWhile Number.isDigit)

def versionDirective (c : Cursor) : Option (Token × Cursor) := do
  let (major, c) ← versionNumber? c
  if c.rest.head? ≠ some '.' then none
  let (minor, c) ← versionNumber? (c.skip 1)
  return (.versionDirective major minor, c)

def tagDirective (c : Cursor) : Option (Token × Cursor) := do
  if c.rest.head? ≠ some '!' then none
  let (handle, c) := takeHandle c
  if handle ≠ ['!'] ∧ !isClosedHandle handle then none
  if !c.rest.head?.any isBlank then none
  let (stem, c) ← takeTagChars true (c.skipWhile isBlank)
  if stem.isEmpty ∨ !atBlank c.rest then none
  return (.tagDirective (String.ofList handle) (String.ofList stem), c)

/-- Past blanks, a comment and a line break, if nothing else is left of the line. -/
def finishLine (c : Cursor) : Option Cursor :=
  let c := c.skipWhile isBlank
  let c := if c.rest.head? = some '#' then c.skipToLineEnd else c
  if atLineEnd c.rest then some c.takeBreak.2 else none

/-- The directive whose percent sign stands at the cursor. -/
def directive (c : Cursor) : Option (Token × Cursor) := do
  let (name, c) := takeName (c.skip 1)
  if !atBlank c.rest then none
  let c := c.skipWhile isBlank
  let (token, c) ←
    if name = "YAML".toList then versionDirective c
    else if name = "TAG".toList then tagDirective c
    else none
  return (token, ← finishLine c)

end MetricFacade.Yaml
