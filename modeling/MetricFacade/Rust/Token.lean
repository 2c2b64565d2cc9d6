import MetricFacade.Number.Notation
import MetricFacade.Text.Printable

/-!
# Tokens of Rust source

Generated code is a list of tokens, and its text is the tokens parted by one space, with
no space inside the edges of parentheses and brackets. A text literal is a token by its
value; how it is quoted is decided here and nowhere else. Inside the quotes stands only
what is plainly printable: everything else, the quote and the backslash included, is
escaped, so a literal holds no line break and no quote of its own.
-/
namespace MetricFacade.Rust

inductive Token where
  /-- A word, a number, punctuation or a delimiter, as it stands. -/
  | code (spelling : String)
  /-- A text literal, by its value. -/
  | text (value : String)
  /-- A raw text literal, by its value. -/
  | rawText (value : String)
  deriving Repr, DecidableEq

def hexEscape (c : Char) : List Char :=
  '\\' :: 'u' :: '\x7b' :: Nat.toDigits 16 c.toNat ++ ['\x7d']

/-- A character of a quoted text. What follows it matters for NUL alone: before an octal
digit the short escape would read as a longer number. -/
def escapeChar (c : Char) (next : Option Char) : List Char :=
  if c = '\x00' then
    if next.any fun n => '0' ≤ n && n ≤ '7' then ['\\', 'x', '0', '0'] else ['\\', '0']
  else if c = '\t' then ['\\', 't']
  else if c = '\n' then ['\\', 'n']
  else if c = '\r' then ['\\', 'r']
  else if c = '"' then ['\\', '"']
  else if c = '\\' then ['\\', '\\']
  else if Text.isPlainlyPrintable c then [c]
  else hexEscape c

def escapeChars : List Char → List Char
  | [] => []
  | c :: rest => escapeChar c rest.head? ++ escapeChars rest

def quoted (value : String) : List Char :=
  '"' :: escapeChars value.toList ++ ['"']

namespace Token

def chars : Token → List Char
  | code spelling => spelling.toList
  | text value => quoted value
  | rawText value => 'r' :: '"' :: value.toList ++ ['"']

/-- The token opens a group that has no space inside its edges. -/
def opensTight (t : Token) : Bool :=
  t = code "(" || t = code "["

/-- The token closes a group that has no space inside its edges. -/
def closesTight (t : Token) : Bool :=
  t = code ")" || t = code "]"

/-- What stands between two neighbours. -/
def gap (a b : Token) : List Char :=
  if a.opensTight || b.closesTight then [] else [' ']

/-- The text of a list of tokens. -/
def render : List Token → List Char
  | [] => []
  | [t] => t.chars
  | a :: b :: rest => a.chars ++ gap a b ++ render (b :: rest)

/-- Tokens that stand as they are. -/
def codes (spellings : List String) : List Token :=
  spellings.map code

/-- The lists, with a comma between two neighbours. -/
def commaSeparated : List (List Token) → List Token
  | [] => []
  | [item] => item
  | item :: rest => item ++ code "," :: commaSeparated rest

/-- The lists, with a comma behind each. -/
def commaTerminated (items : List (List Token)) : List Token :=
  items.flatMap fun item => item ++ [code ","]

/-- A double as a literal; the sign is a token of its own. -/
def double (x : Float) : List Token :=
  let magnitude := code (Number.plain x.abs ++ "f64")
  if Number.isNegative x then [code "-", magnitude] else [magnitude]

end Token

end MetricFacade.Rust
