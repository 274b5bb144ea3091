import Keypad.Automaton.Footprint
import Keypad.Automaton.Storage
/-!
The byte counts of a typical engine. A table has a row of four-byte entries for each state; the work
of building it keeps a list of states, an index of them, and their descriptions.
-/
namespace Keypad.Automaton

def varintBytes (n : Nat) : Nat := n.log2 / 7 + 1

def placesBytes (previous : Nat) : List Nat → Nat
  | [] => 0
  | n :: rest =>
    let distance := if previous ≤ n then 2 * (n - previous) else 2 * (previous - n) - 1
    varintBytes distance + placesBytes n rest

namespace Engine

/-- Two more states than were found have a row, behind a table of starts. -/
def typicalTable (stride states : Nat) : Nat := 48 + 4 * max 1 stride * (states + 2)

theorem typicalTable_mono (stride : Nat) {m n : Nat} (h : m ≤ n) :
    typicalTable stride m ≤ typicalTable stride n :=
  Nat.add_le_add_left (Nat.mul_le_mul_left _ (Nat.add_le_add_right h 2)) 48

theorem le_typicalTable (stride n : Nat) : n ≤ typicalTable stride n := by
  have hentries : 1 ≤ 4 * max 1 stride := by omega
  have hrows := Nat.mul_le_mul_right (n + 2) hentries
  rw [typicalTable]
  omega

def typical : Engine where
  describe r := 9 + placesBytes 0 r.subset.items
  table _ stride t := typicalTable stride t.states
  work _ t := 16 * (t.states + 2) + 20 * (t.states + 1) + t.stored
  automaton p _ states := typicalTable (Program.stride p.letters) states
  captures f := Storage.program (Storage.anchored f) f
  table_mono _ stride _ _ h := typicalTable_mono stride h.states
  work_mono _ _ _ h := by
    have hstates := h.states
    have hstored := h.stored
    omega
  states_le_table _ stride t := le_typicalTable stride t.states
  states_le_work _ t := by omega

end Engine

end Keypad.Automaton
