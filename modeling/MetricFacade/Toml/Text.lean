import MetricFacade.Json.Reader

/-!
# TOML texts

Four ways to quote a text: basic or literal, on one line or on several. Only basic texts
have escapes. In a text on several lines a line break right behind the opening quotes does
not count, up to two quotes may stand directly before the closing ones, and in a basic one
a backslash at the end of a line takes away every blank up to the next word.
-/
namespace MetricFacade.Toml

def isBlank (c : Char) : Bool :=
  c = ' ' || c = '\t'

/-- The character may stand in a comment or unescaped in a text. -/
def isPrintable (c : Char) : Bool :=
  c = '\t' || (0x20 ≤ c.toNat && c.toNat != 0x7f)

/-- What follows a line break at the start. -/
def afterNewline? : List Char → Option (List Char)
  | '\n' :: rest => some rest
  | '\r' :: '\n' :: rest => some rest
  | _ => none

/-- The character with this code point, if there is one. -/
def charOf? (n : Nat) : Option Char :=
  if h : n.isValidChar then some (Char.ofNatAux n h) else none

/-- The number of a given count of hexadecimal digits at the start. -/
def hexPrefix? (count : Nat) (cs : List Char) : Option Nat :=
  let ds := cs.take count
  if ds.length = count then
    ds.foldlM (fun n d => (Json.hexValue? d).map fun v => 16 * n + v) 0
  else none

/-- The character of an escape, its backslash already taken, and its length. -/
def escape? : List Char → Option (Char × Nat)
  | 'b' :: _ => some ('\x08', 1)
  | 't' :: _ => some ('\t', 1)
  | 'n' :: _ => some ('\n', 1)
  | 'f' :: _ => some ('\x0c', 1)
  | 'r' :: _ => some ('\r', 1)
  | 'e' :: _ => some ('\x1b', 1)
  | '"' :: _ => some ('"', 1)
  | '\\' :: _ => some ('\\', 1)
  | 'x' :: rest => numbered 2 rest
  | 'u' :: rest => numbered 4 rest
  | 'U' :: rest => numbered 8 rest
  | _ => none
where
  numbered (count : Nat) (rest : List Char) : Option (Char × Nat) := do
    let c ← charOf? (← hexPrefix? count rest)
    return (c, count + 1)

/-- Characters read, and what follows them. -/
abbrev Split := Option (List Char × List Char)

def Split.cons (c : Char) (s : Split) : Split :=
  s.map fun (cs, rest) => (c :: cs, rest)

/-- A basic text on one line, its opening quote already taken. -/
def basicChars (cs : List Char) : Split :=
  match cs with
  | [] => none
  | '"' :: rest => some ([], rest)
  | '\\' :: rest =>
    match escape? rest with
    | some (c, length) => Split.cons c (basicChars (rest.drop length))
    | none => none
  | c :: rest => if isPrintable c then Split.cons c (basicChars rest) else none
termination_by cs.length
decreasing_by all_goals simp +arith

/-- A literal text on one line, its opening quote already taken. -/
def literalChars : List Char → Split
  | [] => none
  | '\'' :: rest => some ([], rest)
  | c :: rest => if isPrintable c then Split.cons c (literalChars rest) else none

/-- Closing quotes, with up to two more before them that belong to the text. -/
def closing? (quote : Char) (cs : List Char) : Split :=
  let count := (cs.takeWhile (· = quote)).length
  if count < 3 then none
  else
    let own := min (count - 3) 2
    some (List.replicate own quote, cs.drop (own + 3))

/-- A backslash here is the end of a line: only blanks stand behind it. -/
def endsLine (cs : List Char) : Bool :=
  (afterNewline? (cs.dropWhile isBlank)).isSome

def isBlankOrBreak (c : Char) : Bool :=
  isBlank c || c = '\n' || c = '\r'

/-- A basic text on several lines. -/
def longBasicChars (cs : List Char) : Split :=
  match closing? '"' cs with
  | some split => some split
  | none =>
    match cs with
    | [] => none
    | '\\' :: rest =>
      if endsLine rest then longBasicChars (rest.dropWhile isBlankOrBreak)
      else
        match escape? rest with
        | some (c, length) => Split.cons c (longBasicChars (rest.drop length))
        | none => none
    | '\r' :: '\n' :: rest => Split.cons '\r' (Split.cons '\n' (longBasicChars rest))
    | c :: rest =>
      if isPrintable c || c = '\n' then Split.cons c (longBasicChars rest) else none
termination_by cs.length
decreasing_by
  · have := (List.dropWhile_suffix (l := rest) isBlankOrBreak).length_le
    simp; omega
  all_goals simp +arith

/-- A literal text on several lines. -/
def longLiteralChars (cs : List Char) : Split :=
  match closing? '\'' cs with
  | some split => some split
  | none =>
    match cs with
    | [] => none
    | '\r' :: '\n' :: rest => Split.cons '\r' (Split.cons '\n' (longLiteralChars rest))
    | c :: rest =>
      if isPrintable c || c = '\n' then Split.cons c (longLiteralChars rest) else none

/-- Without a line break at the start. -/
def dropNewline (cs : List Char) : List Char :=
  (afterNewline? cs).getD cs

/-- A text in any of the four quotings at the start. -/
def text? (cs : List Char) : Option (String × List Char) :=
  let chars := match cs with
    | '"' :: '"' :: '"' :: rest => longBasicChars (dropNewline rest)
    | '"' :: rest => basicChars rest
    | '\'' :: '\'' :: '\'' :: rest => longLiteralChars (dropNewline rest)
    | '\'' :: rest => literalChars rest
    | _ => none
  chars.map fun (s, rest) => (String.ofList s, rest)

end MetricFacade.Toml
