import MetricFacade.Json.Number

/-!
# Reading JSON

The reader takes what it can from the start of a text and says what follows it, or that
reading came to a halt. Every call goes on a shorter text, so the length of the text bounds
their depth. What numbers come to is a parameter: the grammar is one thing, and how digits are
rounded to a double another.
-/
namespace MetricFacade.Json

open Number

def isBlank (c : Char) : Bool :=
  c = ' ' || c = '\t' || c = '\n' || c = '\r'

def skipBlanks (cs : List Char) : List Char :=
  cs.dropWhile isBlank

def hexValue? (c : Char) : Option Nat :=
  if '0' ≤ c && c ≤ '9' then some (c.toNat - '0'.toNat)
  else if 'a' ≤ c && c ≤ 'f' then some (c.toNat - 'a'.toNat + 10)
  else if 'A' ≤ c && c ≤ 'F' then some (c.toNat - 'A'.toNat + 10)
  else none

/-- The number of four hexadecimal digits. -/
def hex4? (a b c d : Char) : Option Nat := do
  return ((← hexValue? a) * 16 + (← hexValue? b)) * 256
    + (← hexValue? c) * 16 + (← hexValue? d)

def isLeadSurrogate (n : Nat) : Bool :=
  0xd800 ≤ n && n < 0xdc00

def isTrailSurrogate (n : Nat) : Bool :=
  0xdc00 ≤ n && n < 0xe000

/-- The character that a lead and a trail surrogate stand for together. -/
def joinSurrogates (lead trail : Nat) : Char :=
  Char.ofNat (0x10000 + (lead - 0xd800) * 0x400 + (trail - 0xdc00))

/-- The character of an escape of two characters. -/
def shortEscape? (c : Char) : Option Char :=
  match c with
  | '"' => some '"'
  | '\\' => some '\\'
  | '/' => some '/'
  | 'b' => some '\x08'
  | 'f' => some '\x0c'
  | 'n' => some '\n'
  | 'r' => some '\r'
  | 't' => some '\t'
  | _ => none

/-- The characters up to the closing quote, and what follows it. -/
def readChars? : List Char → Option (List Char × List Char)
  | [] => none
  | '"' :: rest => some ([], rest)
  | '\\' :: 'u' :: a :: b :: c :: d :: rest =>
    match hex4? a b c d with
    | none => none
    | some n =>
      if isTrailSurrogate n then none
      else if isLeadSurrogate n then
        match rest with
        | '\\' :: 'u' :: a :: b :: c :: d :: rest =>
          match hex4? a b c d with
          | none => none
          | some m =>
            if isTrailSurrogate m then
              (readChars? rest).map fun (cs, rest) => (joinSurrogates n m :: cs, rest)
            else none
        | _ => none
      else (readChars? rest).map fun (cs, rest) => (Char.ofNat n :: cs, rest)
  | '\\' :: e :: rest =>
    match shortEscape? e with
    | none => none
    | some c => (readChars? rest).map fun (cs, rest) => (c :: cs, rest)
  | c :: rest =>
    if c.toNat < 0x20 || c = '\\' then none
    else (readChars? rest).map fun (cs, rest) => (c :: cs, rest)

/-- The text at the start, its opening quote already taken. -/
def readText? (cs : List Char) : Option (String × List Char) :=
  (readChars? cs).map fun (s, rest) => (String.ofList s, rest)

section

variable (number : Bool → NumberParts → Node)

mutual

/-- The value at the start, and what follows it if reading can go on. -/
def readValue : Nat → List Char → Node × Option (List Char)
  | 0, _ => (.unreadable, none)
  | fuel + 1, cs =>
    match skipBlanks cs with
    | 'n' :: 'u' :: 'l' :: 'l' :: rest => (.null, some rest)
    | 't' :: 'r' :: 'u' :: 'e' :: rest => (.flag true, some rest)
    | 'f' :: 'a' :: 'l' :: 's' :: 'e' :: rest => (.flag false, some rest)
    | '"' :: rest =>
      match readText? rest with
      | some (s, rest) => (.text s, some rest)
      | none => (.unreadable, none)
    | '[' :: rest =>
      match skipBlanks rest with
      | ']' :: rest => (.list [] true, some rest)
      | rest =>
        let (items, next) := readItems fuel rest
        (.list items next.isSome, next)
    | '\x7b' :: rest =>
      match skipBlanks rest with
      | '\x7d' :: rest => (.table [] true, some rest)
      | rest =>
        let (entries, next) := readEntries fuel rest
        (.table entries next.isSome, next)
    | rest =>
      match splitNumberNode? number rest with
      | some (.unreadable, _) | none => (.unreadable, none)
      | some (node, rest) => (node, some rest)

/-- The items of a list that has one at least, up to its closing bracket. -/
def readItems : Nat → List Char → List Node × Option (List Char)
  | 0, _ => ([], none)
  | fuel + 1, cs =>
    let (item, next) := readValue fuel cs
    match next.map skipBlanks with
    | some (',' :: rest) =>
      let (items, next) := readItems fuel rest
      (item :: items, next)
    | some (']' :: rest) => ([item], some rest)
    | _ => ([item], none)

/-- The entries of a table that has one at least, up to its closing brace. -/
def readEntries : Nat → List Char → List (String × Node) × Option (List Char)
  | 0, _ => ([], none)
  | fuel + 1, cs =>
    match skipBlanks cs with
    | '"' :: rest =>
      match readText? rest with
      | none => ([], none)
      | some (key, rest) =>
        match skipBlanks rest with
        | ':' :: rest =>
          let (value, next) := readValue fuel rest
          match next.map skipBlanks with
          | some (',' :: rest) =>
            let (entries, next) := readEntries fuel rest
            ((key, value) :: entries, next)
          | some ('\x7d' :: rest) => ([(key, value)], some rest)
          | _ => ([(key, value)], none)
        | _ => ([(key, .unreadable)], none)
    | _ => ([], none)

end

/-- The document of a JSON text. -/
def read (text : String) : Document :=
  let cs := text.toList
  let (root, next) := readValue number (2 * cs.length + 1) cs
  ⟨root, next.any fun rest => (skipBlanks rest).isEmpty⟩

/-- The value of a JSON text that is well formed from its first character to its last. -/
def parse? (text : String) : Option Value :=
  let d := read number text
  if d.ended then Value.ofNode? d.root else none

end

end MetricFacade.Json
