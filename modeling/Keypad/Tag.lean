import Keypad.Automaton.Footprint
import Keypad.Automaton.Priority
import Keypad.Limits
import Keypad.Pattern.Denotation
import Keypad.Spoken
/-!
Semantic tags. A group whose name begins with an underscore carries the rest of its name as a tag;
of the groups that take part in the preferred match the last one counts. Without a tag an utterance
is spelled out.
-/
namespace Keypad

open Keypad.Automaton Keypad.Pattern

inductive TagError
  | syntaxFault (text : String) (e : SyntaxError)
  | tooLarge (limit : Nat)
  deriving DecidableEq, Repr, Inhabited

namespace TagError

def message : TagError → String
  | .syntaxFault text e => e.report text
  | .tooLarge n => s!"Compiled regex exceeds size limit of {n} bytes."

end TagError

structure TagReader where
  program : Program
  groups : List (Nat × Option String)
  deriving Inhabited

namespace TagReader

def sign : Char := '_'

def compile (engine : Engine) (unicode : Bool) (limit : Nat) (text : String) :
    Except TagError TagReader :=
  match Form.parse unicode text with
  | .error e => .error (.syntaxFault text e)
  | .ok form =>
    if limit < engine.captures form then .error (.tooLarge limit)
    else .ok ⟨Program.ofForm form, form.groups⟩

def tagOf (name : Option String) : Option String :=
  match name.map String.toList with
  | some (c :: rest) => if c = sign then some (String.ofList rest) else none
  | _ => none

def tagsIn (r : TagReader) (trail : Trail) : List String :=
  r.groups.filterMap fun (i, name) => if trail.contains i then tagOf name else none

def find (r : TagReader) (utterance : String) : Option String :=
  (r.program.preferredMatch (Text.Utf8.encode utterance)).bind fun trail =>
    (r.tagsIn trail).getLast?

/-- The tag of an utterance, or the utterance spelled out. -/
def interpret (r : TagReader) (utterance : String) : String :=
  (r.find utterance).getD (Spoken.utterance utterance)

end TagReader

end Keypad
