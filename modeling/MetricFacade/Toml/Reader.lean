import MetricFacade.Toml.Scalar
import MetricFacade.Toml.Text
import MetricFacade.Toml.Tree

/-!
# Reading TOML

A text is a sequence of lines: keys with values, and headers that say which table the keys
below them belong to. Written tables may run over several lines and end in a comma, as
lists may. Any defect anywhere spoils the whole text.
-/
namespace MetricFacade.Toml

def skipBlanks (cs : List Char) : List Char :=
  cs.dropWhile isBlank

/-- What follows a comment, if one stands here, up to the end of its line. -/
def skipComment? : List Char → Option (List Char)
  | '#' :: rest =>
    let tail := rest.dropWhile isPrintable
    match tail with
    | [] => some []
    | '\n' :: _ => some tail
    | '\r' :: '\n' :: _ => some tail
    | _ => none
  | cs => some cs

/-- The rest of a line holds nothing but blanks and a comment; what follows it. -/
def endLine? (cs : List Char) : Option (List Char) := do
  match ← skipComment? (skipBlanks cs) with
  | [] => some []
  | cs => afterNewline? cs

/-- Blanks, comments and line breaks passed over. -/
def skipLines? : Nat → List Char → Option (List Char)
  | 0, _ => none
  | fuel + 1, cs => do
    let cs ← skipComment? (skipBlanks cs)
    match afterNewline? cs with
    | some rest => skipLines? fuel rest
    | none => some cs

/-! ## Keys -/

def isBareKeyChar (c : Char) : Bool :=
  c.isAlphanum || c = '_' || c = '-'

/-- One part of a key: bare, or a text on one line. -/
def keyPart? (cs : List Char) : Option (String × List Char) :=
  match cs with
  | '"' :: rest => (basicChars rest).map fun (s, rest) => (String.ofList s, rest)
  | '\'' :: rest => (literalChars rest).map fun (s, rest) => (String.ofList s, rest)
  | cs =>
    let bare := cs.takeWhile isBareKeyChar
    if bare.isEmpty then none else some (String.ofList bare, cs.dropWhile isBareKeyChar)

/-- A key: its parts, and what follows it and the blanks behind it. -/
def key? : Nat → List Char → Option (List String × List Char)
  | 0, _ => none
  | fuel + 1, cs => do
    let (part, rest) ← keyPart? (skipBlanks cs)
    match skipBlanks rest with
    | '.' :: rest => do
      let (parts, rest) ← key? fuel rest
      return (part :: parts, rest)
    | rest => some ([part], rest)

/-- The key without its last part, and the last part. -/
def splitLast? : List String → Option (List String × String)
  | [] => none
  | [key] => some ([], key)
  | part :: rest => (splitLast? rest).map fun (path, key) => (part :: path, key)

/-! ## Values -/

/-- The character ends a bare word. -/
def endsBareWord (c : Char) : Bool :=
  c ∈ [' ', '\t', '\n', '\r', ',', ']', '[', '\x7b', '\x7d', '#', '=', '"', '\'']

/-- The bare word at the start. A date and a time may have a space between them. -/
def bareWord (cs : List Char) : List Char × List Char :=
  let first := cs.takeWhile (!endsBareWord ·)
  let rest := cs.dropWhile (!endsBareWord ·)
  match afterDate? first, rest with
  | some [], ' ' :: d :: more =>
    if Number.isDigit d then
      (first ++ ' ' :: (d :: more).takeWhile (!endsBareWord ·),
        (d :: more).dropWhile (!endsBareWord ·))
    else (first, rest)
  | _, _ => (first, rest)

mutual

/-- The value at the start, and what follows it. -/
def value? : Nat → List Char → Option (Node × List Char)
  | 0, _ => none
  | fuel + 1, cs =>
    match cs with
    | '"' :: _ | '\'' :: _ => (text? cs).map fun (s, rest) => (.text s, rest)
    | '[' :: rest => (items? fuel rest).map fun (items, rest) => (.list items true, rest)
    | '\x7b' :: rest => (pairs? fuel [] rest).map fun (entries, rest) => (entries.node, rest)
    | cs =>
      let (word, rest) := bareWord cs
      (bareNode? word).map fun node => (node, rest)

/-- The items of a list up to its closing bracket. -/
def items? : Nat → List Char → Option (List Node × List Char)
  | 0, _ => none
  | fuel + 1, cs => do
    match ← skipLines? (fuel + 1) cs with
    | ']' :: rest => some ([], rest)
    | cs =>
      let (item, rest) ← value? fuel cs
      match ← skipLines? (fuel + 1) rest with
      | ',' :: rest => do
        let (items, rest) ← items? fuel rest
        return (item :: items, rest)
      | ']' :: rest => some ([item], rest)
      | _ => none

/-- The entries of a written table up to its closing brace, behind those read before. -/
def pairs? : Nat → Entries → List Char → Option (Entries × List Char)
  | 0, _, _ => none
  | fuel + 1, entries, cs => do
    match ← skipLines? (fuel + 1) cs with
    | '\x7d' :: rest => some (entries, rest)
    | cs =>
      let (key, rest) ← key? (fuel + 1) cs
      let (path, last) ← splitLast? key
      let '=' :: rest := rest | none
      let (node, rest) ← value? fuel (skipBlanks rest)
      let entries ← entries.setDotted path last node .header
      match ← skipLines? (fuel + 1) rest with
      | ',' :: rest => pairs? fuel entries rest
      | '\x7d' :: rest => some (entries, rest)
      | _ => none

end

/-! ## Lines -/

/-- The outermost entries so far, and the table that keys belong to now. -/
structure State where
  entries : Entries := []
  section_ : List String := []

/-- A header in single brackets. -/
def State.openTable (s : State) (key : List String) : Option State := do
  let (path, last) ← splitLast? key
  return ⟨← Entries.atPath .onTheWay (Entries.openTable last) path .header s.entries, key⟩

/-- A header in double brackets. -/
def State.addTable (s : State) (key : List String) : Option State := do
  let (path, last) ← splitLast? key
  return ⟨← Entries.atPath .onTheWay (Entries.addTable last) path .header s.entries, key⟩

/-- A key with its value. -/
def State.set (s : State) (key : List String) (node : Node) : Option State := do
  let (path, last) ← splitLast? key
  return { s with entries :=
    ← Entries.atPath .onTheWay (Entries.setDotted path last node) s.section_ .header s.entries }

/-- The line at the start, taken into the state, and what follows it. -/
def line? (fuel : Nat) (s : State) (cs : List Char) : Option (State × List Char) := do
  match skipBlanks cs with
  | '[' :: '[' :: rest =>
    let (key, rest) ← key? fuel rest
    let ']' :: ']' :: rest := rest | none
    return (← s.addTable key, ← endLine? rest)
  | '[' :: rest =>
    let (key, rest) ← key? fuel rest
    let ']' :: rest := rest | none
    return (← s.openTable key, ← endLine? rest)
  | rest =>
    let (key, rest) ← key? fuel rest
    let '=' :: rest := rest | none
    let (node, rest) ← value? fuel (skipBlanks rest)
    return (← s.set key node, ← endLine? rest)

/-- All lines. -/
def lines? : Nat → State → List Char → Option State
  | 0, _, _ => none
  | fuel + 1, s, cs => do
    match ← skipLines? (fuel + 1) cs with
    | [] => some s
    | cs =>
      let (s, rest) ← line? (fuel + 1) s cs
      lines? fuel s rest

/-- The document of a TOML text. A byte order mark at its start is passed over. -/
def read (text : String) : Document :=
  let cs := match text.toList with
    | '\ufeff' :: rest => rest
    | rest => rest
  match lines? (2 * cs.length + 2) {} cs with
  | some s => ⟨s.entries.node, true⟩
  | none => .unreadable

end MetricFacade.Toml
