import Keypad.CommandLine.Report
import Keypad.CommandLine.Request
import Keypad.Replay
/-!
What the program does with its arguments: the two texts it writes and the code it ends with. A
buffer with a character that is no symbol ends with code 1, a pattern that cannot be used or
arguments that cannot be read with code 2. The buffer is looked at before the pattern.
-/
namespace Keypad.CommandLine

open Keypad.Automaton

structure Reply where
  exit : Nat
  output : String
  errors : String
  deriving DecidableEq, Repr, Inhabited

namespace Reply

def success (output : String) : Reply := ⟨0, output, ""⟩

def failure (exit : Nat) (errors : String) : Reply := ⟨exit, "", errors⟩

def line (text : String) : String := text ++ "\n"

def ofPatternError (e : PatternError) : Reply := failure 2 (line (Report.ofPattern e).page)

def ofSymbolError (e : SymbolError) : Reply := failure 1 (line (Report.ofSymbol e).page)

end Reply

section Tasks

variable (engine : Engine)

def check (pattern : String) (limits : Limits) : Reply :=
  match Matcher.compile engine pattern limits with
  | .error e => .ofPatternError e
  | .ok m => .success (Reply.line s!"ok: `{m.pattern}` ({m.memoryUsage engine} bytes)")

def classify (pattern buffer : String) (mode : Mode) (json : Bool) (limits : Limits) : Reply :=
  match Symbol.parse buffer with
  | .error e => .ofSymbolError e
  | .ok symbols =>
    match Grammar.compile engine pattern mode limits with
    | .error e => .ofPatternError e
    | .ok g =>
      let o := g.findSymbols symbols
      .success (Reply.line (if json then o.toJson.pretty else o.display))

/-- The replay of no symbols has no lines. -/
def trace (pattern buffer : String) (json : Bool) (limits : Limits) : Reply :=
  match Symbol.parse buffer with
  | .error e => .ofSymbolError e
  | .ok symbols =>
    match Matcher.compile engine pattern limits with
    | .error e => .ofPatternError e
    | .ok m =>
      let steps := m.replay symbols
      if json then .success (Reply.line (Step.listToJson steps).pretty)
      else if steps.isEmpty then .success ""
      else .success (Reply.line (Step.render steps))

def Request.answer (r : Request) : Reply :=
  match r.task with
  | .check pattern => check engine pattern r.limits
  | .classify pattern buffer mode json => classify engine pattern buffer mode json r.limits
  | .trace pattern buffer json => trace engine pattern buffer json r.limits

end Tasks

def Stop.answer : Stop → Reply
  | .explained s => .success s.helpPage
  | .nothingGiven => .failure 2 Scope.program.helpPage
  | .version => .success (Reply.line s!"{programName} {programVersion}")
  | .refused r => .failure 2 r.page

def answer (engine : Engine) (arguments : List String) : Reply :=
  match readArguments arguments with
  | .ok request => request.answer engine
  | .error stop => stop.answer

end Keypad.CommandLine
