import Std.Data.HashSet
/-!
Searching the states of a deterministic machine, depth first, for one at which a text may end. The
search tries one byte of each class and enters a state only once.
-/
namespace Keypad.Automaton

structure Machine (σ : Type) where
  step : σ → UInt8 → σ
  accepts : σ → Bool
  dead : σ → Bool
  key : σ → List Nat

namespace Machine

variable {σ : Type}

def run (m : Machine σ) (s : σ) (bytes : List UInt8) : σ := bytes.foldl m.step s

abbrev Seen := Std.HashSet (List Nat)

def expand (m : Machine σ) (s : σ) : List UInt8 → Seen → List σ → Option (Seen × List σ)
  | [], seen, stack => some (seen, stack)
  | b :: bs, seen, stack =>
    let t := m.step s b
    if m.dead t || seen.contains (m.key t) then expand m s bs seen stack
    else if m.accepts t then none
    else expand m s bs (seen.insert (m.key t)) (t :: stack)

def search (m : Machine σ) (letters : List UInt8) : Nat → Seen → List σ → Bool
  | 0, _, _ => false
  | _, _, [] => false
  | fuel + 1, seen, s :: stack =>
    match expand m s letters seen stack with
    | none => true
    | some (seen, stack) => search m letters fuel seen stack

/-- Some text leads from `s` to another state, which accepts. At most `states` states are reached
from `s` and not dead. -/
def reachesAccept (m : Machine σ) (letters : List UInt8) (states : Nat) (s : σ) : Bool :=
  if m.dead s then false
  else search m letters (states + 1) (Std.HashSet.emptyWithCapacity.insert (m.key s)) [s]

end Machine

end Keypad.Automaton
