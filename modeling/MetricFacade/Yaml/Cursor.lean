/-!
# Positions in a YAML text

A cursor is what is left of a text, with the line and the column of its first character.
Lines end in a line feed, a carriage return, both, or one of three further line breaks.
All but the last two of these read as a line feed.
-/
namespace MetricFacade.Yaml

structure Cursor where
  rest : List Char
  line : Nat := 0
  column : Nat := 0
  /-- How many characters lie behind. -/
  index : Nat := 0

def isSpace (c : Char) : Bool :=
  c = ' '

def isBlank (c : Char) : Bool :=
  c = ' ' || c = '\t'

def isBreak (c : Char) : Bool :=
  c ∈ ['\n', '\r', '\x85', '\u2028', '\u2029']

/-- The character may stand in a text at all. -/
def isAllowed (c : Char) : Bool :=
  let n := c.toNat
  n = 9 || n = 10 || n = 13 || (0x20 ≤ n && n ≤ 0x7e) || n = 0x85 || (0xa0 ≤ n && n ≤ 0xfffd)
    || 0x10000 ≤ n

/-- A blank or a line break stands here, or the end of the text. -/
def atBlank : List Char → Bool
  | [] => true
  | c :: _ => isBlank c || isBreak c

/-- A line break stands here, or the end of the text. -/
def atLineEnd : List Char → Bool
  | [] => true
  | c :: _ => isBreak c

/-- Three dashes or three dots that part documents, at the start of a line. -/
def isDocumentMark : List Char → Bool
  | '-' :: '-' :: '-' :: rest => atBlank rest
  | '.' :: '.' :: '.' :: rest => atBlank rest
  | _ => false

namespace Cursor

/-- Past `n` characters of this line. -/
def skip (c : Cursor) (n : Nat) : Cursor :=
  { c with rest := c.rest.drop n, column := c.column + n, index := c.index + n }

/-- At `rest`, which begins further on in this line. -/
def moveTo (c : Cursor) (rest : List Char) : Cursor :=
  c.skip (c.rest.length - rest.length)

/-- At the start of the next line. -/
def nextLine (c : Cursor) (rest : List Char) : Cursor :=
  ⟨rest, c.line + 1, 0, c.index + (c.rest.length - rest.length)⟩

/-- Past a line break, and what the break reads as; nothing at the end of the text. -/
def takeBreak (c : Cursor) : List Char × Cursor :=
  match c.rest with
  | '\r' :: '\n' :: rest => (['\n'], c.nextLine rest)
  | b :: rest =>
    if b = '\u2028' || b = '\u2029' then ([b], c.nextLine rest)
    else if isBreak b then (['\n'], c.nextLine rest)
    else ([], c)
  | [] => ([], c)

def skipWhile (p : Char → Bool) (c : Cursor) : Cursor :=
  c.moveTo (c.rest.dropWhile p)

/-- Past the rest of the line, its break not included. -/
def skipToLineEnd (c : Cursor) : Cursor :=
  c.skipWhile (!isBreak ·)

def atDocumentMark (c : Cursor) : Bool :=
  c.column = 0 && isDocumentMark c.rest

end Cursor

/-- Blanks and line breaks between two words of one scalar. -/
structure Gap where
  /-- Blanks before the first line break. -/
  blanks : List Char := []
  /-- The first line break. -/
  first : List Char := []
  /-- The line breaks behind the first. -/
  further : List Char := []
  broken : Bool := false

namespace Gap

/-- What the gap reads as: one line break is a space, and of several all but the first stay. -/
def folded (g : Gap) : List Char :=
  if g.broken then
    if g.first = ['\n'] then (if g.further.isEmpty then [' '] else g.further)
    else g.first ++ g.further
  else g.blanks

/-- The gap at a cursor, behind what is gathered of it, and the cursor past it. A tab where
`refuseTab` says so spoils the text. -/
def take (refuseTab : Cursor → Bool) : Nat → Gap → Cursor → Option (Gap × Cursor)
  | 0, _, _ => none
  | fuel + 1, g, c =>
    match c.rest with
    | [] => some (g, c)
    | b :: _ =>
      if isBlank b then
        if g.broken then
          if b = '\t' && refuseTab c then none else take refuseTab fuel g (c.skip 1)
        else take refuseTab fuel { g with blanks := g.blanks ++ [b] } (c.skip 1)
      else if isBreak b then
        let (read, c) := c.takeBreak
        if g.broken then take refuseTab fuel { g with further := g.further ++ read } c
        else take refuseTab fuel { g with blanks := [], first := read, broken := true } c
      else some (g, c)

end Gap

end MetricFacade.Yaml
