import Keypad.Automaton.Program
/-!
The bytes that a form takes as a stored program with groups. An instruction takes a fixed room, and
one with several successors more for each of them.
-/
namespace Keypad.Automaton

open Keypad.Charset Keypad.Pattern

namespace Storage

def instr : Nat := 32

def ranges (n : Nat) : Nat := if n ≤ 1 then instr else instr + 8 * n

def ways (n : Nat) : Nat := instr + 4 * n

def byteClass (s : Intervals) : Nat := instr + ranges s.length

def width : Trie → Nat
  | .branch set _ rest => set.length + width rest
  | _ => 0

def below : Trie → Nat
  | .branch _ tail rest =>
    (if tail = .done then 0 else ranges (width tail) + below tail) + below rest
  | _ => 0

def charClass (s : Intervals) : Nat :=
  if Form.isAscii s then byteClass s
  else
    let t := Trie.ofScalars s
    instr + ranges (width t) + below t

def iterate (min : Nat) (max : Option Nat) (consumes : Bool) (body : Nat) : Nat :=
  match max with
  | some n =>
    if min = 0 ∧ n = 1 then ways 2 + instr + body
    else if n ≤ min then (if min = 0 then instr else min * body)
    else (if min = 0 then instr else min * body) + (n - min) * (ways 2 + body) + instr
  | none =>
    if min = 0 then (if consumes then ways 2 + body else 2 * ways 2 + instr + body)
    else min * body + ways 2

/-- The bytes of a form. Alternatives share one instruction with a way on for each of them; `more`
says that a form is a later alternative of such an instruction. -/
def form (more : Bool) : Form → Nat
  | .empty | .look _ => instr
  | .literal bs => instr * bs.length
  | .bytes s => byteClass s
  | .chars s => charClass s
  | .iterate min max _ sub => iterate min max (consumes sub) (form false sub)
  | .group _ _ sub => 2 * instr + form false sub
  | .seq a b => form false a + form false b
  | .alt a b => (if more then 0 else 2 * instr + 4) + 4 + form false a + form true b

def program (anchored : Bool) (f : Form) : Nat :=
  (if anchored then instr else ways 2 + 2 * instr) + 3 * instr + form false f

def anchored : Form → Bool
  | .look .textStart => true
  | .group _ _ sub => anchored sub
  | .iterate min _ _ sub => 0 < min && anchored sub
  | .seq a b => anchored a || (startsEmpty a && anchored b)
  | .alt a b => anchored a && anchored b
  | _ => false
where
  startsEmpty : Form → Bool
    | .look _ | .empty => true
    | _ => false

end Storage

end Keypad.Automaton
