import MetricFacade.Check.Spelling
import MetricFacade.Json.Reader
import MetricFacade.Rust.Ident
import MetricFacade.Rust.Token

/-!
# Reading tokens of source text

The tokens of a source text, by the lexical rules of the language: blanks and comments part
tokens, a token is as long as it can be, and between quotes the escapes are undone. What
generated code has no use for is refused: doc comments and comments of several lines,
characters and bytes in quotes, raw texts with hashes, lines that go on behind a backslash,
and numbers that are not plain decimals.
-/
namespace MetricFacade.Rust.Lexer

open Check

/-- The characters with the Unicode property Pattern_White_Space. -/
def spaces : List Char :=
  ['\t', '\n', '\x0b', '\x0c', '\r', ' ', '\u0085', '\u200e', '\u200f', '\u2028', '\u2029']

def isSpace (c : Char) : Bool :=
  c ∈ spaces

/-! ## Texts in quotes -/

/-- The character of an escape of two characters. -/
def shortEscape? (c : Char) : Option Char :=
  match c with
  | 'n' => some '\n'
  | 'r' => some '\r'
  | 't' => some '\t'
  | '\\' => some '\\'
  | '0' => some '\x00'
  | '\x27' => some '\x27'
  | '"' => some '"'
  | _ => none

/-- The character of `\x` and two digits, which is an ASCII one. -/
def byteEscape? (high low : Char) : Option Char := do
  let n := 16 * (← Json.hexValue? high) + (← Json.hexValue? low)
  if n < 128 then return Char.ofNat n else none

/-- Where a reader stands between the quotes. -/
inductive Place where
  /-- Not inside an escape. -/
  | plain
  /-- Behind `\u`, a brace and some digits, which make this number. -/
  | scalar (number digits : Nat)
  deriving Repr, DecidableEq

/-- One character more in front of what is read of a text. -/
def push (c : Char) (read : Option (List Char × List Char)) : Option (List Char × List Char) :=
  read.map fun (value, rest) => (c :: value, rest)

/-- The value up to the closing quote, and what follows it. -/
def readText : Place → List Char → Option (List Char × List Char)
  | _, [] => none
  | .plain, '"' :: rest => some ([], rest)
  | .plain, '\\' :: 'x' :: high :: low :: rest =>
    (byteEscape? high low).bind fun c => push c (readText .plain rest)
  | .plain, '\\' :: 'u' :: '\x7b' :: rest => readText (.scalar 0 0) rest
  | .plain, '\\' :: e :: rest =>
    (shortEscape? e).bind fun c => push c (readText .plain rest)
  | .plain, c :: rest =>
    if c = '\r' || c = '\\' then none else push c (readText .plain rest)
  | .scalar number digits, c :: rest =>
    if c = '\x7d' then
      if 0 < digits ∧ number.isValidChar then push (Char.ofNat number) (readText .plain rest)
      else none
    else if digits < 6 then
      (Json.hexValue? c).bind fun d => readText (.scalar (16 * number + d) (digits + 1)) rest
    else none

/-- The value up to the closing quote of a raw text, and what follows it. -/
def readRaw : List Char → Option (List Char × List Char)
  | [] => none
  | '"' :: rest => some ([], rest)
  | c :: rest => if c = '\r' then none else push c (readRaw rest)

/-! ## Words, numbers and marks -/

/-- A text starts with a character of this kind. -/
def startsWith (p : Char → Bool) (cs : List Char) : Bool :=
  cs.head?.any p

/-- A token whose spelling is taken from the start of a text, and what follows it. -/
abbrev Lexeme := List Char × List Char

def isWordStart (c : Char) : Bool :=
  c.isAlpha || c = '_'

/-- Directly behind a word these make it the prefix of another token. -/
def isPrefixed (c : Char) : Bool :=
  c = '"' || c = '\x27' || c = '#'

/-- A word that is no prefix. -/
def readWord (cs : List Char) : Option Lexeme :=
  let rest := cs.dropWhile isWordChar
  if startsWith isWordStart cs && !startsWith isPrefixed rest then
    some (cs.takeWhile isWordChar, rest)
  else none

/-- The types that may follow a number. -/
def numberTypes : List String :=
  ["", "f32", "f64", "i8", "i16", "i32", "i64", "i128", "isize", "u8", "u16", "u32", "u64",
   "u128", "usize"]

/-- A point and digits behind it, or nothing. -/
def readFraction : List Char → Lexeme
  | '.' :: c :: rest =>
    if c.isDigit then ('.' :: (c :: rest).takeWhile Char.isDigit, (c :: rest).dropWhile Char.isDigit)
    else ([], '.' :: c :: rest)
  | cs => ([], cs)

/-- A number directly behind which stands neither a sign nor another point. -/
def readNumber (cs : List Char) : Option Lexeme :=
  let whole := cs.takeWhile Char.isDigit
  let (fraction, behind) := readFraction (cs.dropWhile Char.isDigit)
  let type := behind.takeWhile isWordChar
  let rest := behind.dropWhile isWordChar
  if String.ofList type ∈ numberTypes
      && !startsWith (fun c => isPrefixed c || c = '.' || c = '+' || c = '-') rest then
    some (whole ++ fraction ++ type, rest)
  else none

/-- The marks of the language, longer ones first. -/
def marks : List String :=
  ["<<=", ">>=", "...", "..=",
   "::", "->", "=>", "<-", "==", "!=", "<=", ">=", "&&", "||", "+=", "-=", "*=", "/=", "%=",
   "^=", "&=", "|=", "<<", ">>", "..",
   "+", "-", "*", "/", "%", "^", "!", "&", "|", "=", ">", "<", "@", ".", ",", ";", ":", "#",
   "$", "?", "~", "\x7b", "\x7d", "[", "]", "(", ")"]

def readMark (cs : List Char) : Option Lexeme := do
  let mark ← marks.find? fun mark => mark.toList.isPrefixOf cs
  return (mark.toList, cs.drop mark.toList.length)

/-! ## Tokens -/

def codeOf : Lexeme → Token × List Char
  | (spelling, rest) => (.code (String.ofList spelling), rest)

/-- Nothing that reads as a type stands directly behind a text. -/
def untyped (make : String → Token) : Lexeme → Option (Token × List Char)
  | (value, rest) =>
    if startsWith isWordChar rest then none else some (make (String.ofList value), rest)

/-- The token that the prefix `r` and the text behind it make. -/
def lexRaw : List Char → Option (Token × List Char)
  | '"' :: rest => (readRaw rest).bind (untyped .rawText)
  | '#' :: rest => do
    let (word, rest) ← readWord rest
    if String.ofList word ∈ "_" :: Ident.pathKeywords then none
    else return codeOf ('r' :: '#' :: word, rest)
  | _ => none

/-- The token at the start of a text, and what follows it. -/
def lexToken : List Char → Option (Token × List Char)
  | [] => none
  | c :: rest =>
    if c = '"' then (readText .plain rest).bind (untyped .text)
    else if c = '\x27' then
      (readWord rest).map fun (word, rest) => codeOf ('\x27' :: word, rest)
    else if c = 'r' && startsWith isPrefixed rest then lexRaw rest
    else if isWordStart c then (readWord (c :: rest)).map codeOf
    else if c.isDigit then (readNumber (c :: rest)).map codeOf
    else (readMark (c :: rest)).map codeOf

/-- What is left behind blanks and comments. The flag says that a comment goes on. -/
def skip : Bool → List Char → Option (List Char)
  | _, [] => some []
  | true, c :: rest => skip (c != '\n') rest
  | false, '/' :: '/' :: rest =>
    if startsWith (fun c => c = '/' || c = '!') rest then none else skip true rest
  | false, '/' :: '*' :: _ => none
  | false, c :: rest => if isSpace c then skip false rest else some (c :: rest)

/-- The tokens of a text that has no blank at its start. -/
def lexFrom (cs : List Char) : Option (List Token) :=
  if cs.isEmpty then some []
  else match lexToken cs with
    | none => none
    | some (t, behind) =>
      match skip false behind with
      | none => none
      | some rest => if rest.length < cs.length then (lexFrom rest).map (t :: ·) else none
termination_by cs.length

/-- The tokens of a text. -/
def lex (cs : List Char) : Option (List Token) :=
  (skip false cs).bind lexFrom

end MetricFacade.Rust.Lexer
