import MetricFacade.Text.Alphanumeric
import MetricFacade.Text.LetterCase

/-!
# Snake case

A text is cut into words, and the words are written small and joined with `_`.
Characters that are not alphanumeric separate pieces and are dropped. Inside a piece
a word ends where a small letter meets a capital (`fooBar`), and before the last
capital of a run of capitals that a small letter follows (`HTTPServer`).
-/
namespace MetricFacade.Text

/-- What the word read so far ends in, digits and caseless letters left aside. -/
inductive CaseMode where
  | boundary
  | lower
  | upper
  deriving Repr, DecidableEq

/-- The mode after one more character of the same word. -/
def CaseMode.next (mode : CaseMode) (c : Char) : CaseMode :=
  if isLowercase c then .lower else if isUppercase c then .upper else mode

/-- The words of a piece. `word` is the word begun so far, last character first. -/
def wordsFrom : CaseMode → List Char → List Char → List (List Char)
  | _, _, [] => []
  | _, word, [c] => [(c :: word).reverse]
  | mode, word, c :: n :: rest =>
    if mode.next c = .lower ∧ isUppercase n then
      (c :: word).reverse :: wordsFrom .boundary [] (n :: rest)
    else if mode = .upper ∧ isUppercase c ∧ isLowercase n then
      word.reverse :: wordsFrom .boundary [c] (n :: rest)
    else
      wordsFrom (mode.next c) (c :: word) (n :: rest)

/-- The maximal runs of alphanumeric characters, empty ones included. -/
def pieces : List Char → List (List Char)
  | [] => [[]]
  | c :: rest =>
    if isAlphanumeric c then
      match pieces rest with
      | [] => [[c]]
      | p :: ps => (c :: p) :: ps
    else [] :: pieces rest

/-- All words of a text, in order. -/
def words (cs : List Char) : List (List Char) :=
  (pieces cs).flatMap (wordsFrom .boundary [])

/-- A word written small. A `Σ` that ends the word takes its final form. -/
def lowerWord : List Char → List Char
  | [] => []
  | [c] => if c = 'Σ' then ['ς'] else toLowercase c
  | c :: rest => toLowercase c ++ lowerWord rest

def snakeChars (cs : List Char) : List Char :=
  ['_'].intercalate ((words cs).map lowerWord)

def snakeCase (s : String) : String :=
  String.ofList (snakeChars s.toList)

end MetricFacade.Text
