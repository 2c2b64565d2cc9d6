/-!
# Log records

What the parts of the program report while they work: a level, the part that speaks,
and a message.
-/
namespace MetricFacade

namespace Log

inductive Level where
  | error
  | warn
  | info
  | debug
  | trace
  deriving Repr, DecidableEq

namespace Level

def rank : Level → Nat
  | error => 0
  | warn => 1
  | info => 2
  | debug => 3
  | trace => 4

def name : Level → String
  | error => "ERROR"
  | warn => "WARN"
  | info => "INFO"
  | debug => "DEBUG"
  | trace => "TRACE"

end Level

/-- The parts of the program that report. -/
inductive Source where
  | builder
  | commands
  | compiler
  | manifest
  | validator
  deriving Repr, DecidableEq

def Source.name : Source → String
  | builder => "builder"
  | commands => "commands"
  | compiler => "compiler"
  | manifest => "manifest"
  | validator => "validator"

structure Record where
  level : Level
  source : Source
  message : String
  deriving Repr, DecidableEq

/-- The record on one line. -/
def Record.line (r : Record) : String :=
  r.level.name ++ " " ++ r.source.name ++ ": " ++ r.message

end Log

end MetricFacade
