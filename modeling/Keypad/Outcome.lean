import Keypad.Classification
import Keypad.Text.Json
import Keypad.Text.Quoted
/-!
What a caller learns about a buffer: its classification and, for a match, how it was put in, how far
to trust it, the buffer itself and what it means.
-/
namespace Keypad

inductive Mode
  | dtmf
  | voice
  deriving DecidableEq, Repr, Inhabited

namespace Mode

def name : Mode → String
  | .dtmf => "dtmf"
  | .voice => "voice"

/-- Keys are exact; speech is not. -/
def confidence : Mode → Nat
  | .dtmf => 1
  | .voice => 0

def ofName? (text : String) : Option Mode := [Mode.dtmf, Mode.voice].find? (·.name == text)

def toJson (m : Mode) : Text.Json := .string m.name

def unknownMessage (text : String) : String :=
  s!"unknown input mode `{text}` (expected `dtmf` or `voice`)"

end Mode

structure Match where
  mode : Mode
  confidence : Nat
  utterance : String
  interpretation : String
  deriving DecidableEq, Repr, Inhabited

inductive Outcome
  | noMatch
  | potentialMatch
  | isMatch (m : Match)
  | maxMatch (m : Match)
  deriving DecidableEq, Repr, Inhabited

namespace Outcome

def classification : Outcome → Classification
  | .noMatch => .noMatch
  | .potentialMatch => .potentialMatch
  | .isMatch _ => .isMatch
  | .maxMatch _ => .maxMatch

def match? : Outcome → Option Match
  | .isMatch m | .maxMatch m => some m
  | .noMatch | .potentialMatch => none

def display (o : Outcome) : String :=
  let kind := o.classification.name
  match o.match? with
  | none => kind
  | some m =>
    kind ++ s!" (mode={m.mode.name}, confidence={m.confidence}, utterance=" ++
      Text.Quoted.encode m.utterance ++ ", interpretation=" ++
      Text.Quoted.encode m.interpretation ++ ")"

def toJson (o : Outcome) : Text.Json :=
  let kind := ("kind", .string o.classification.name)
  match o.match? with
  | none => .object [kind]
  | some m =>
    .object [kind, ("mode", .string m.mode.name), ("confidence", .number m.confidence),
      ("utterance", .string m.utterance), ("interpretation", .string m.interpretation)]

end Outcome

end Keypad
