import Keypad.Classification
import Keypad.PatternError
import Keypad.Symbol
import Keypad.Automaton.Footprint
import Keypad.Pattern.Denotation
/-!
Compiling a pattern and classifying buffers with it. A match takes up the whole buffer; it can be
extended when one more symbol makes a match again.
-/
namespace Keypad

open Keypad.Automaton Keypad.Pattern

inductive CompileError
  | syntaxFault (e : SyntaxError)
  | tooLong
  | unicodeWordEdge
  | limit (e : LimitError)
  deriving DecidableEq, Repr, Inhabited

namespace CompileError

def message : CompileError → String
  | .syntaxFault _ | .tooLong => "error building NFA"
  | .unicodeWordEdge => "unsupported regex feature for DFAs: cannot build DFAs for regexes with " ++
    "Unicode word boundaries; switch to ASCII word boundaries, or heuristically enable Unicode " ++
    "word boundaries or use a different regex engine"
  | .limit e => e.message

end CompileError

structure Matcher where
  pattern : String
  form : Form
  program : Program
  letters : List UInt8
  states : Nat
  minimized : Bool
  deriving Inhabited

namespace Matcher

def programLimit : Nat := 0x7FFFFFFE

variable (engine : Engine)

def ofForm (pattern : String) (form : Form) (limits : Limits) : Except CompileError Matcher :=
  if programLimit < codeSize form then .error .tooLong
  else if form.looks.any Look.isUnicode then .error .unicodeWordEdge
  else
    let program := Program.ofForm form
    match program.survey engine limits with
    | .error e => .error (.limit e)
    | .ok tally => .ok ⟨pattern, form, program, program.letters, tally.states, limits.minimize⟩

def compile? (pattern : String) (limits : Limits) : Except CompileError Matcher :=
  match Form.parse false pattern with
  | .error e => .error (.syntaxFault e)
  | .ok form => ofForm engine pattern form limits

def compile (pattern : String) (limits : Limits) : Except PatternError Matcher :=
  match compile? engine pattern limits with
  | .ok m => .ok m
  | .error e => .error ⟨pattern, e.message⟩

def memoryUsage (m : Matcher) : Nat := engine.automaton m.program m.minimized m.states

def machine (m : Matcher) : Machine Subset :=
  ⟨m.program.step, m.program.accepts, Subset.dead, Subset.key⟩

def start (m : Matcher) : Subset := m.program.start .none

def readFrom (m : Matcher) : Subset → List UInt8 → Option Subset
  | s, [] => some s
  | s, b :: rest =>
    let t := m.machine.step s b
    if t.dead then none else readFrom m t rest

/-- One more symbol gives a match again. -/
def extendable (m : Matcher) (s : Subset) : Bool :=
  Symbol.all.any fun symbol =>
    let t := m.machine.step s symbol.byte
    !t.dead && m.machine.accepts t

def classifyBytes (m : Matcher) (bytes : List UInt8) : Classification :=
  match m.readFrom m.start bytes with
  | none => .noMatch
  | some s =>
    if m.machine.accepts s then
      if m.extendable s then .isMatch else .maxMatch
    else if m.machine.reachesAccept m.letters m.states s then .potentialMatch
    else .noMatch

/-- Classifies any text; characters that are no symbols have no special part. -/
def classifyText (m : Matcher) (buffer : String) : Classification :=
  m.classifyBytes (Text.Utf8.encode buffer)

def classify (m : Matcher) (buffer : List Symbol) : Classification :=
  m.classifyBytes (buffer.map Symbol.byte)

end Matcher

end Keypad
