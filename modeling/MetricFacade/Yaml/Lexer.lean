import MetricFacade.Yaml.BlockText
import MetricFacade.Yaml.Plain
import MetricFacade.Yaml.Quoted
import MetricFacade.Yaml.Tag

/-!
# From YAML text to tokens

A scalar or a collection may turn out to be a key only when a colon is met behind it, on
the same line and within 1024 characters. Until then it is a candidate, one for each level
of flow collections, and neither it nor anything behind it is released. Where the text
cannot be read any further, the tokens end, and those held back never come out.
-/
namespace MetricFacade.Yaml

/-- A token that a colon would turn into a key. -/
structure Candidate where
  /-- How many tokens stand before it. -/
  number : Nat
  line : Nat
  column : Nat
  index : Nat
  /-- It begins a line of a block mapping, where nothing but a key may stand. -/
  required : Bool

/-- The farthest that a colon may be from the start of its key. -/
def keyReach : Nat := 1024

structure Lexer where
  cursor : Cursor
  /-- The number of tokens released. -/
  released : Nat := 0
  /-- The tokens read and not yet released, in order. -/
  held : List Token := []
  /-- The columns of the block collections around the cursor, innermost first. -/
  indents : List Nat := []
  candidate : Option Candidate := none
  /-- The candidates of the levels outside the current one, innermost first. -/
  outer : List (Option Candidate) := []
  /-- A key may begin here. -/
  keyAllowed : Bool := true
  ended : Bool := false

namespace Lexer

def inFlow (l : Lexer) : Bool :=
  !l.outer.isEmpty

/-- The number of the next token. -/
def next (l : Lexer) : Nat :=
  l.released + l.held.length

def put (l : Lexer) (t : Token) : Lexer :=
  { l with held := l.held ++ [t] }

/-- The tokens put before the one with this number. -/
def putAt (l : Lexer) (number : Nat) (ts : List Token) : Lexer :=
  let place := number - l.released
  { l with held := l.held.take place ++ ts ++ l.held.drop place }

/-- The token is put and the cursor moves past its `length` characters. -/
def putSkip (l : Lexer) (length : Nat) (t : Token) : Lexer :=
  { l.put t with cursor := l.cursor.skip length }

/-! ## Indentation -/

/-- The column lies further in than every open block collection. -/
def opensBlock (l : Lexer) (column : Nat) : Bool :=
  !l.inFlow && l.indents.head?.all (· < column)

/-- Block collections further in than the column are closed. -/
def closeBlocks (column : Nat) (l : Lexer) : Lexer :=
  if l.inFlow then l
  else
    let closed := (l.indents.takeWhile (column < ·)).length
    { l with indents := l.indents.drop closed, held := l.held ++ List.replicate closed .blockEnd }

/-- All block collections are closed. -/
def closeAllBlocks (l : Lexer) : Lexer :=
  if l.inFlow then l
  else { l with indents := [], held := l.held ++ l.indents.map fun _ => .blockEnd }

/-- A block collection begins at the cursor, unless one at this column is open. -/
def openBlock (l : Lexer) (start : Token) : Lexer :=
  if l.opensBlock l.cursor.column then
    { l.put start with indents := l.cursor.column :: l.indents }
  else l

/-! ## Candidates for keys -/

/-- No colon can follow the candidate any more. -/
def isStale (c : Cursor) (k : Candidate) : Bool :=
  k.line < c.line || k.index + keyReach < c.index

/-- The candidate if it is still one; nothing if it had to be one and is not. -/
def refresh (c : Cursor) : Option Candidate → Option (Option Candidate)
  | none => some none
  | some k =>
    if isStale c k then (if k.required then none else some none) else some (some k)

/-- Without the stale candidates. -/
def dropStale (l : Lexer) : Option Lexer := do
  return { l with
    outer := ← l.outer.mapM (refresh l.cursor)
    candidate := ← refresh l.cursor l.candidate }

/-- The candidate of the current level turns out to be none. -/
def dropCandidate (l : Lexer) : Option Lexer :=
  if l.candidate.any (·.required) then none else some { l with candidate := none }

/-- The next token, which begins at the cursor, becomes the candidate if a key may begin
here. -/
def saveCandidate (l : Lexer) : Option Lexer :=
  if l.keyAllowed then do
    let l ← l.dropCandidate
    let required := !l.inFlow && l.indents.head? = some l.cursor.column
    let k : Candidate := ⟨l.next, l.cursor.line, l.cursor.column, l.cursor.index, required⟩
    return { l with candidate := some k }
  else some l

/-! ## Single tokens -/

/-- Past blanks, comments and line breaks. A tab is no blank where a key may begin. -/
def skipGap : Nat → Lexer → Lexer
  | 0, l => l
  | fuel + 1, l =>
    let tabs := l.inFlow || !l.keyAllowed
    let c := l.cursor.skipWhile fun b => b = ' ' || (tabs && b = '\t')
    let c := if c.rest.head? = some '#' then c.skipToLineEnd else c
    if c.rest.head?.any isBreak then
      skipGap fuel { l with cursor := c.takeBreak.2, keyAllowed := l.keyAllowed || !l.inFlow }
    else { l with cursor := c }

def finish (l : Lexer) : Option Lexer := do
  let c := l.cursor
  let l := { l with cursor := if c.column = 0 then c else c.nextLine c.rest }
  let l ← l.closeAllBlocks.dropCandidate
  return { l.put .streamEnd with keyAllowed := false, ended := true }

def readDirective (l : Lexer) : Option Lexer := do
  let l ← l.closeAllBlocks.dropCandidate
  let (token, cursor) ← directive l.cursor
  return { l.put token with keyAllowed := false, cursor := cursor }

def readDocumentMark (l : Lexer) (t : Token) : Option Lexer := do
  let l ← l.closeAllBlocks.dropCandidate
  return { l.putSkip 3 t with keyAllowed := false }

def openFlow (l : Lexer) (t : Token) : Option Lexer := do
  let l ← l.saveCandidate
  return { l.putSkip 1 t with
    outer := l.candidate :: l.outer, candidate := none, keyAllowed := true }

def closeFlow (l : Lexer) (t : Token) : Option Lexer := do
  let l ← l.dropCandidate
  let l := match l.outer with
    | [] => l
    | candidate :: outer => { l with candidate := candidate, outer := outer }
  return { l.putSkip 1 t with keyAllowed := false }

def readFlowEntry (l : Lexer) : Option Lexer := do
  let l ← l.dropCandidate
  return { l.putSkip 1 .flowEntry with keyAllowed := true }

/-- A block collection may begin here, or goes on. -/
def enterBlock (l : Lexer) (start : Token) : Option Lexer :=
  if l.inFlow then some l
  else if l.keyAllowed then some (l.openBlock start)
  else none

def readBlockEntry (l : Lexer) : Option Lexer := do
  let l ← (← l.enterBlock .blockSequenceStart).dropCandidate
  return { l.putSkip 1 .blockEntry with keyAllowed := true }

def readKey (l : Lexer) : Option Lexer := do
  let l ← (← l.enterBlock .blockMappingStart).dropCandidate
  return { l.putSkip 1 .key with keyAllowed := !l.inFlow }

/-- A colon makes a key of the candidate, or else stands for a value whose key has been
announced or is missing. -/
def readValue (l : Lexer) : Option Lexer := do
  match l.candidate with
  | some k =>
    let l :=
      if l.opensBlock k.column then
        { l.putAt k.number [.blockMappingStart, .key] with indents := k.column :: l.indents }
      else l.putAt k.number [.key]
    return { l.putSkip 1 .value with candidate := none, keyAllowed := false }
  | none =>
    let l ← l.enterBlock .blockMappingStart
    return { l.putSkip 1 .value with keyAllowed := !l.inFlow }

/-- A token that may be a key, as `read` finds it at the cursor. -/
def readCandidate (l : Lexer) (read : Cursor → Option (Token × Cursor)) : Option Lexer := do
  let l ← l.saveCandidate
  let (token, cursor) ← read l.cursor
  return { l.put token with keyAllowed := false, cursor := cursor }

def readAnchor (l : Lexer) (make : String → Token) : Option Lexer :=
  l.readCandidate fun c => (anchorName c).map fun (name, c) => (make name, c)

/-- A tag stands before a blank, or before a comma in a flow collection. -/
def readTag (l : Lexer) : Option Lexer :=
  l.readCandidate fun c => do
    let (tag, c) ← writtenTag c
    if atBlank c.rest ∨ (l.inFlow ∧ c.rest.head? = some ',') then return (.tag tag, c) else none

def readQuoted (l : Lexer) (single : Bool) : Option Lexer :=
  l.readCandidate fun c =>
    (quoted single c).map fun (cs, c) => (.scalar (String.ofList cs) true, c)

def readBlockText (l : Lexer) (literal : Bool) : Option Lexer := do
  let l ← l.dropCandidate
  let (cs, c) ← blockText literal l.indents.head? l.cursor
  return { l.put (.scalar (String.ofList cs) true) with keyAllowed := true, cursor := c }

def readPlain (l : Lexer) : Option Lexer := do
  let l ← l.saveCandidate
  let least := match l.indents.head? with
    | some column => column + 1
    | none => 0
  let s ← plain l.inFlow least l.cursor
  return { l.put (.scalar (String.ofList s.chars) false) with
    keyAllowed := s.broken, cursor := s.cursor }

/-- The character begins no plain scalar, whatever follows it. -/
def isIndicator (c : Char) : Bool :=
  c ∈ ['-', '?', ':', ',', '[', ']', '\x7b', '\x7d', '#', '&', '*', '!', '|', '>', '\'', '"',
    '%', '@', '`']

/-- A plain scalar begins with `c`, which `rest` follows. -/
def beginsPlain (inFlow : Bool) (c : Char) (rest : List Char) : Bool :=
  !(isBlank c || isBreak c || isIndicator c)
    || (c = '-' && !rest.head?.any isBlank)
    || (!inFlow && (c = '?' || c = ':') && !atBlank rest)

/-- The token at the cursor. -/
def readToken (l : Lexer) : Option Lexer :=
  match l.cursor.rest with
  | [] => l.finish
  | c :: rest =>
    if l.cursor.column = 0 ∧ c = '%' then l.readDirective
    else if l.cursor.atDocumentMark then
      l.readDocumentMark (if c = '-' then .documentStart else .documentEnd)
    else if c = '[' then l.openFlow .flowSequenceStart
    else if c = '\x7b' then l.openFlow .flowMappingStart
    else if c = ']' then l.closeFlow .flowSequenceEnd
    else if c = '\x7d' then l.closeFlow .flowMappingEnd
    else if c = ',' then l.readFlowEntry
    else if c = '-' ∧ atBlank rest then l.readBlockEntry
    else if c = '?' ∧ (l.inFlow ∨ atBlank rest) then l.readKey
    else if c = ':' ∧ (l.inFlow ∨ atBlank rest) then l.readValue
    else if c = '*' then l.readAnchor .alias
    else if c = '&' then l.readAnchor .anchor
    else if c = '!' then l.readTag
    else if c = '|' ∧ !l.inFlow then l.readBlockText true
    else if c = '>' ∧ !l.inFlow then l.readBlockText false
    else if c = '\'' then l.readQuoted true
    else if c = '"' then l.readQuoted false
    else if beginsPlain l.inFlow c rest then l.readPlain
    else none

/-- One more token is read, with the ends of block collections before it. -/
def advance (l : Lexer) : Option Lexer := do
  let l ← (l.skipGap (l.cursor.rest.length + 1)).dropStale
  (l.closeBlocks l.cursor.column).readToken

/-! ## All tokens -/

/-- The first token that is not released yet because it may be a key. -/
def firstCandidate (l : Lexer) : Nat :=
  ((l.candidate :: l.outer).filterMap fun k => k.map (·.number)).foldl min l.next

/-- The tokens before the first candidate are released. -/
def release (l : Lexer) : Option (List Token × Lexer) := do
  let l ← l.dropStale
  let count := l.firstCandidate - l.released
  return (l.held.take count, { l with released := l.released + count, held := l.held.drop count })

def run : Nat → Lexer → List Token
  | 0, _ => []
  | fuel + 1, l =>
    match l.advance.bind release with
    | none => []
    | some (ts, l) => if l.ended then ts else ts ++ run fuel l

end Lexer

/-- The tokens of a text as far as it can be read. -/
def tokens (text : List Char) : List Token :=
  Lexer.run (text.length + 1) { cursor := ⟨text, 0, 0, 0⟩ }

end MetricFacade.Yaml
