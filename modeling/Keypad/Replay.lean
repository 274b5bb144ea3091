import Keypad.Grammar
/-!
Pressing keys one at a time. A replay classifies every beginning of a list of symbols and stops
after the first one that collecting further keys cannot help; a collection does the same with a
growing text; an exploration lists the buffers that can be reached and are not hopeless.
-/
namespace Keypad

structure Step where
  buffer : String
  classification : Classification
  deriving DecidableEq, Repr, Inhabited

namespace Step

def line (s : Step) : String := s.buffer ++ " => " ++ s.classification.name

def render (steps : List Step) : String := "\n".intercalate (steps.map line)

def toJson (s : Step) : Text.Json :=
  .object [("buffer", .string s.buffer), ("classification", .string s.classification.name)]

def listToJson (steps : List Step) : Text.Json := .array (steps.map toJson)

end Step

namespace Matcher

def replayFrom (m : Matcher) (pressed : List Symbol) : List Symbol → List Step
  | [] => []
  | s :: rest =>
    let pressed := pressed ++ [s]
    let c := m.classify pressed
    let step : Step := ⟨Symbol.textOf pressed, c⟩
    if c.terminal then [step] else step :: replayFrom m pressed rest

def replay (m : Matcher) (symbols : List Symbol) : List Step := m.replayFrom [] symbols

def nextLevel (m : Matcher) (level : List String) : List Step :=
  level.flatMap fun buffer =>
    Symbol.all.filterMap fun s =>
      let longer := buffer.push s.char
      let c := m.classifyText longer
      if c = .noMatch then none else some ⟨longer, c⟩

def levels (m : Matcher) (room : Nat) : Nat → List Step → List Step
  | 0, level => level
  | depth + 1, level =>
    if room < level.length then level
    else level ++ levels m (room - level.length) depth (m.nextLevel (level.map (·.buffer)))

/-- At most `room` buffers that begin with `start`, are at most `depth` symbols longer and are not
hopeless, shortest first, and whether there are more. -/
def explore (m : Matcher) (start : String) (depth room : Nat) : List Step × Bool :=
  let c := m.classifyText start
  let all := if c = .noMatch then [] else levels m room depth [⟨start, c⟩]
  (all.take room, room < all.length)

end Matcher

namespace Grammar

/-- Presses keys behind a text, checking the text after each one. -/
def collectFrom (g : Grammar) (buffer : String) : List Char → List (String × Outcome)
  | [] => []
  | key :: rest =>
    let buffer := buffer.push key
    let o := g.find buffer
    if o.classification.terminal then [(buffer, o)] else (buffer, o) :: collectFrom g buffer rest

def collect (g : Grammar) (keys : List Char) : List (String × Outcome) := g.collectFrom "" keys

end Grammar

end Keypad
