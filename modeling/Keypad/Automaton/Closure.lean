import Keypad.Automaton.Program
import Keypad.Automaton.Visited
/-!
The threads of a program at one place of a text. A thread that is not waiting for a byte goes on
until each of its branches waits, in order of preference; an instruction that was already reached
at this place is not entered a second time.
-/
namespace Keypad.Automaton

open Keypad.Pattern

structure Thread (τ : Type) where
  pc : Nat
  note : τ
  deriving Repr

variable {τ : Type}

/-- The threads that wait at or behind those of a stack. A thread waits at an instruction that
reads a byte, at the end, and at a condition that does not pass. `seen` holds the instructions that
were entered; `onMark` notes that a group was left. -/
@[specialize] def settle (p : Program) (passes : Look → Bool) (onMark : Nat → τ → τ) :
    Nat → Visited → List (Thread τ) → List (Thread τ)
  | 0, _, _ => []
  | _, _, [] => []
  | fuel + 1, seen, t :: stack =>
    if seen.contains t.pc then settle p passes onMark fuel seen stack
    else
      let seen := seen.insert t.pc
      match p.at? t.pc with
      | some (.byte _ _) | some .accept => t :: settle p passes onMark fuel seen stack
      | some (.look l next) =>
        if passes l then settle p passes onMark fuel seen (⟨next, t.note⟩ :: stack)
        else t :: settle p passes onMark fuel seen stack
      | some (.fork a b) => settle p passes onMark fuel seen (⟨a, t.note⟩ :: ⟨b, t.note⟩ :: stack)
      | some (.jump next) => settle p passes onMark fuel seen (⟨next, t.note⟩ :: stack)
      | some (.mark i next) => settle p passes onMark fuel seen (⟨next, onMark i t.note⟩ :: stack)
      | some .stop | none => settle p passes onMark fuel seen stack

def closure (p : Program) (passes : Look → Bool) (onMark : Nat → τ → τ) (ts : List (Thread τ)) :
    List (Thread τ) :=
  let base := (ts.head?.map (·.pc)).getD 0
  settle p passes onMark (ts.length + 2 * p.size + 1) (.empty base) ts

end Keypad.Automaton
