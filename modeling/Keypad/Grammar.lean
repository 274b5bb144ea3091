import Keypad.Matcher
import Keypad.Outcome
import Keypad.Tag
/-!
A grammar: a pattern compiled to classify buffers and to read the tags of those that match. The tags
are read from the written form of the pattern, anchored at both ends.
-/
namespace Keypad

open Keypad.Automaton Keypad.Pattern

structure Grammar where
  mode : Mode
  matcher : Matcher
  tags : TagReader
  deriving Inhabited

namespace Grammar

def anchoredText (form : Form) : String := "^(?:" ++ form.render ++ ")$"

/-- Compiles a pattern. A reader of tags has a limit of its own when none is given. -/
def compile (engine : Engine) (pattern : String) (mode : Mode) (limits : Limits) :
    Except PatternError Grammar :=
  match Matcher.compile engine pattern limits with
  | .error e => .error e
  | .ok matcher =>
    match TagReader.compile engine false (limits.size.getD Limits.tenMebibytes)
        (anchoredText matcher.form) with
    | .error e => .error ⟨pattern, e.message⟩
    | .ok tags => .ok ⟨mode, matcher, tags⟩

def matchOf (g : Grammar) (buffer : String) : Match :=
  ⟨g.mode, g.mode.confidence, buffer, g.tags.interpret buffer⟩

def find (g : Grammar) (buffer : String) : Outcome :=
  match g.matcher.classifyText buffer with
  | .noMatch => .noMatch
  | .potentialMatch => .potentialMatch
  | .isMatch => .isMatch (g.matchOf buffer)
  | .maxMatch => .maxMatch (g.matchOf buffer)

def findSymbols (g : Grammar) (buffer : List Symbol) : Outcome := g.find (Symbol.textOf buffer)

end Grammar

end Keypad
