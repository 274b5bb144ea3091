import Keypad.Text.Utf8
/-!
Conditions on a place in a text that consume nothing: ends of the text, ends of a line, edges of
words. A condition sees only what stands on either side of the place.
-/
namespace Keypad.Pattern

inductive Edge
  | none
  | lineFeed
  | carriageReturn
  | word
  | other
  deriving DecidableEq, Repr, Inhabited

namespace Edge

def isWordByte (b : UInt8) : Bool :=
  (0x30 ≤ b && b ≤ 0x39) || (0x41 ≤ b && b ≤ 0x5A) || b == 0x5F || (0x61 ≤ b && b ≤ 0x7A)

def ofByte (b : UInt8) : Edge :=
  if b = 0x0A then .lineFeed
  else if b = 0x0D then .carriageReturn
  else if isWordByte b then .word
  else .other

def ofByte? : Option UInt8 → Edge
  | some b => ofByte b
  | Option.none => .none

def isWord (e : Edge) : Bool := e == .word

def code : Edge → Nat
  | .none => 0 | .lineFeed => 1 | .carriageReturn => 2 | .word => 3 | .other => 4

theorem code_inj {d e : Edge} : d.code = e.code ↔ d = e := by
  cases d <;> cases e <;> simp [code]

end Edge

inductive WordEdge
  | boundary
  | notBoundary
  | start
  | finish
  | startHalf
  | finishHalf
  deriving DecidableEq, Repr, Inhabited

namespace WordEdge

def holds (before after : Bool) : WordEdge → Bool
  | .boundary => before != after
  | .notBoundary => before == after
  | .start => !before && after
  | .finish => before && !after
  | .startHalf => !before
  | .finishHalf => !after

/-- The sides on which a Unicode edge asks for a whole character, where it could hold without
one. -/
def needsBefore : WordEdge → Bool
  | .notBoundary | .startHalf => true
  | _ => false

def needsAfter : WordEdge → Bool
  | .notBoundary | .finishHalf => true
  | _ => false

end WordEdge

inductive Look
  | textStart
  | textEnd
  | lineStart (crlf : Bool)
  | lineEnd (crlf : Bool)
  | wordEdge (kind : WordEdge) (unicode : Bool)
  deriving DecidableEq, Repr, Inhabited

namespace Look

def isUnicode : Look → Bool
  | .wordEdge _ u => u
  | _ => false

def holds (before after : Edge) : Look → Bool
  | .textStart => before == .none
  | .textEnd => after == .none
  | .lineStart false => before == .none || before == .lineFeed
  | .lineEnd false => after == .none || after == .lineFeed
  | .lineStart true =>
    before == .none || before == .lineFeed || (before == .carriageReturn && after != .lineFeed)
  | .lineEnd true =>
    after == .none || after == .carriageReturn || (after == .lineFeed && before != .carriageReturn)
  | .wordEdge k _ => k.holds before.isWord after.isWord

end Look

end Keypad.Pattern
