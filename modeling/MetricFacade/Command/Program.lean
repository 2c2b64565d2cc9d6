import MetricFacade.Command.Arguments
import MetricFacade.Command.Run

/-!
# The program

What the program prints and the status it ends with. Diagnostics follow the log records
that were asked for. A failure that has not been told yet is told at the end.
-/
namespace MetricFacade.Command

/-- What the program leaves behind. -/
structure Ending where
  status : Nat
  files : Files
  stdout : String := ""
  stderr : String := ""

def versionText : String := "facadegen 0.1.0\n"

def usageText : String :=
  "Generate typed metrics facades from declarative manifests\n\n"
    ++ "Usage: facadegen [--color <WHEN>] [--log-level <LEVEL>] <generate|validate|init> [OPTIONS]\n"

/-- The text with blanks on one side, so that it is `width` long at least. -/
def padLeft (width : Nat) (s : String) : String :=
  String.ofList (List.replicate (width - s.length) ' ') ++ s

def padRight (width : Nat) (s : String) : String :=
  s ++ String.ofList (List.replicate (width - s.length) ' ')

/-- A log record as the program shows it. The two lowest levels also show who speaks. -/
def shownRecord (level : Log.Level) (r : Log.Record) : String :=
  let source := if Log.Level.debug.rank ≤ level.rank then " " ++ padLeft 10 r.source.name else ""
  "[" ++ padRight 5 r.level.name ++ source ++ "] " ++ r.message ++ "\n"

/-- The records up to the level, as the program shows them. -/
def shownLog (level : LogLevel) (log : List Log.Record) : String :=
  match level with
  | none => ""
  | some level =>
    String.join ((log.filter fun r => r.level.rank ≤ level.rank).map (shownRecord level))

/-- How the program ends after a task with this outcome. -/
def Outcome.ending (level : LogLevel) (o : Outcome) : Ending :=
  let told := shownLog level o.log ++ o.err
  match o.status, o.result with
  | some status, _ => ⟨status, o.files, o.out, told⟩
  | none, .ok () => ⟨0, o.files, o.out, told⟩
  | none, .error failure => ⟨1, o.files, o.out, told ++ "Error: " ++ failure.message ++ "\n"⟩

/-- Runs the program with its arguments. -/
def program (terminal : Bool) (files : Files) (arguments : List String)
    (lookup : WorkspaceLookup := noPackageManager) : Ending :=
  match Invocation.ofArguments arguments with
  | .error (.refused why) => { status := 2, files := files, stderr := why.message ++ "\n" }
  | .error .usage => { status := 0, files := files, stdout := usageText }
  | .error .version => { status := 0, files := files, stdout := versionText }
  | .ok i => (i.run terminal files lookup).ending i.logLevel

end MetricFacade.Command
