import MetricFacade.Json.Value
import MetricFacade.Number.Notation

/-!
# Writing JSON

Two layouts of one value: compact, with no blanks, and indented, with two spaces for each
level and a line for each item. In texts only the quote, the backslash and the control
characters below the space are escaped. A number that is not finite is written `null`.
-/
namespace MetricFacade.Json

def hexDigits4 (n : Nat) : List Char :=
  let digits := Nat.toDigits 16 n
  List.replicate (4 - digits.length) '0' ++ digits

def escapeChar (c : Char) : List Char :=
  if c = '"' then ['\\', '"']
  else if c = '\\' then ['\\', '\\']
  else if c = '\x08' then ['\\', 'b']
  else if c = '\t' then ['\\', 't']
  else if c = '\n' then ['\\', 'n']
  else if c = '\x0c' then ['\\', 'f']
  else if c = '\r' then ['\\', 'r']
  else if c.toNat < 0x20 then '\\' :: 'u' :: hexDigits4 c.toNat
  else [c]

def quoted (s : String) : List Char :=
  '"' :: s.toList.flatMap escapeChar ++ ['"']

def doubleChars (x : Float) : List Char :=
  if x.isFinite then Number.switching x else "null".toList

/-- The line break and the blanks before an item at this level. -/
def newLine (level : Nat) : List Char :=
  '\n' :: List.replicate (2 * level) ' '

mutual

def Value.compact : Value → List Char
  | .null => "null".toList
  | .bool b => (toString b).toList
  | .int n => (toString n).toList
  | .double x => doubleChars x
  | .text s => quoted s
  | .list [] => ['[', ']']
  | .list (item :: items) => '[' :: item.compact ++ compactItems items ++ [']']
  | .object [] => ['\x7b', '\x7d']
  | .object ((key, value) :: fields) =>
    '\x7b' :: quoted key ++ ':' :: value.compact ++ compactFields fields ++ ['\x7d']

def compactItems : List Value → List Char
  | [] => []
  | item :: items => ',' :: item.compact ++ compactItems items

def compactFields : List (String × Value) → List Char
  | [] => []
  | (key, value) :: fields =>
    ',' :: quoted key ++ ':' :: value.compact ++ compactFields fields

end

mutual

/-- The text of a value that stands at this level. -/
def Value.indented (level : Nat) : Value → List Char
  | .null => "null".toList
  | .bool b => (toString b).toList
  | .int n => (toString n).toList
  | .double x => doubleChars x
  | .text s => quoted s
  | .list [] => ['[', ']']
  | .list (item :: items) =>
    '[' :: newLine (level + 1) ++ item.indented (level + 1)
      ++ indentedItems (level + 1) items ++ newLine level ++ [']']
  | .object [] => ['\x7b', '\x7d']
  | .object ((key, value) :: fields) =>
    '\x7b' :: newLine (level + 1) ++ quoted key ++ ':' :: ' ' :: value.indented (level + 1)
      ++ indentedFields (level + 1) fields ++ newLine level ++ ['\x7d']

def indentedItems (level : Nat) : List Value → List Char
  | [] => []
  | item :: items =>
    ',' :: newLine level ++ item.indented level ++ indentedItems level items

def indentedFields (level : Nat) : List (String × Value) → List Char
  | [] => []
  | (key, value) :: fields =>
    ',' :: newLine level ++ quoted key ++ ':' :: ' ' :: value.indented level
      ++ indentedFields level fields

end

end MetricFacade.Json
