import Keypad.CommandLine.Scan
import Keypad.Limits
/-!
What the arguments ask for. Settings of the program can be given before a command or behind it; the
ones behind it count.
-/
namespace Keypad.CommandLine

inductive Task
  | check (pattern : String)
  | classify (pattern buffer : String) (mode : Mode) (json : Bool)
  | trace (pattern buffer : String) (json : Bool)
  deriving DecidableEq, Repr, Inhabited

structure Request where
  task : Task
  sizeLimit : Option Nat
  deriving DecidableEq, Repr, Inhabited

namespace Request

/-- A size of zero lifts both bounds; any other replaces the first. -/
def limits (r : Request) : Limits :=
  match r.sizeLimit with
  | none => .standard
  | some 0 => (Limits.standard.withSize none).withDeterminize none
  | some n => Limits.standard.withSize (some n)

end Request

namespace Scan

def json (scan : Scan) : Bool := scan.given.contains (.setting .json)

def task (v : Verb) (scan : Scan) : Except Stop Task :=
  match v, scan.pattern, scan.buffer with
  | .check, some pattern, _ => .ok (.check pattern)
  | .classify, some pattern, buffer =>
    .ok (.classify pattern (buffer.getD "") (scan.mode.getD .dtmf) scan.json)
  | .trace, some pattern, some buffer => .ok (.trace pattern buffer scan.json)
  | v, _, _ =>
    let missing := scan.missing (.verb v)
    let usage := (Scope.verb v).usage (scan.parts ++ missing.map .operand)
    .error (.refused ⟨.missingOperands missing, none, some usage, true⟩)

end Scan

def readVerb (v : Verb) : List String → Scan → Except Stop Request
  | [], scan => do
    let scan ← Scan.checked (scan.settle (.verb v))
    let task ← scan.task v
    .ok ⟨task, scan.sizeLimit⟩
  | argument :: rest, scan => do readVerb v rest (← scan.read (.verb v) argument rest)

def explain : List String → Stop
  | [] => .explained .program
  | name :: rest =>
    let unknown (s : Scope) (name : String) : Stop :=
      .refused ⟨.unknownCommand name, none, some s.plainUsage, s.settings.contains .help⟩
    match Scope.program.command? name, rest with
    | none, _ => unknown .program name
    | some s, [] => .explained s
    | some s, name :: _ => unknown s name

def readProgram : List String → Scan → Except Stop Request
  | [], scan => do
    let scan ← Scan.checked (scan.settle .program)
    if scan.given.isEmpty then .error .nothingGiven
    else .error (.refused ⟨.missingCommand, none, some Scope.program.plainUsage, true⟩)
  | argument :: rest, scan =>
    let command := if scan.waiting ∨ scan.onlyOperands then none
      else Scope.program.command? argument
    match command with
    | some (.verb v) => do
      let request ← readVerb v rest (.start (.verb v))
      let scan ← Scan.checked (scan.settle .program)
      .ok { request with sizeLimit := request.sizeLimit <|> scan.sizeLimit }
    | some _ => .error (explain rest)
    | none => do readProgram rest (← scan.read .program argument rest)

def readArguments (arguments : List String) : Except Stop Request :=
  readProgram arguments (.start .program)

end Keypad.CommandLine
