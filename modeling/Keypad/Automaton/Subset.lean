import Std.Data.HashSet
import Keypad.Automaton.Closure
/-!
A program read as a deterministic machine. Its state is the list of waiting threads and, where one
of them waits at a condition, the edge on the near side. A condition is decided when the next byte
or the end is known.
-/
namespace Keypad.Automaton

open Keypad.Pattern

structure Subset where
  before : Edge
  items : List Nat
  deriving DecidableEq, Repr, Inhabited

namespace Subset

def key (s : Subset) : List Nat := s.before.code :: s.items

@[simp] theorem key_inj {s t : Subset} : s.key = t.key ↔ s = t := by
  cases s; cases t
  simp only [key, List.cons.injEq, Edge.code_inj, mk.injEq]

def dead (s : Subset) : Bool := s.items.isEmpty

end Subset

namespace Program

def isLook (p : Program) (pc : Nat) : Bool :=
  match p.at? pc with
  | some (.look _ _) => true
  | _ => false

def waiting (p : Program) (passes : Look → Bool) (pcs : List Nat) : List Nat :=
  (closure p passes (fun _ u => u) (pcs.map fun pc => (⟨pc, ()⟩ : Thread Unit))).map (·.pc)

def subsetAt (p : Program) (before : Edge) (pcs : List Nat) : Subset :=
  let items := p.waiting (fun _ => false) pcs
  ⟨if items.any p.isLook then before else .other, items⟩

def resolved (p : Program) (s : Subset) (after : Edge) : List Nat :=
  if s.items.any p.isLook then p.waiting (Look.holds s.before after) s.items else s.items

def read? (p : Program) (b : UInt8) (pc : Nat) : Option Nat :=
  match p.at? pc with
  | some (.byte set next) => if set.contains b.toNat then some next else none
  | _ => none

def step (p : Program) (s : Subset) (b : UInt8) : Subset :=
  let after := Edge.ofByte b
  p.subsetAt after ((p.resolved s after).filterMap (p.read? b))

def isAccept (p : Program) (pc : Nat) : Bool :=
  match p.at? pc with
  | some .accept => true
  | _ => false

def accepts (p : Program) (s : Subset) : Bool := (p.resolved s .none).any p.isAccept

def start (p : Program) (before : Edge) : Subset := p.subsetAt before [0]

def boundariesOf : Instr → List Nat
  | .byte set _ => set.flatMap fun i => [i.lo, i.hi + 1]
  | .look (.lineStart false) _ | .look (.lineEnd false) _ => [0x0A, 0x0B]
  | .look (.lineStart true) _ | .look (.lineEnd true) _ => [0x0A, 0x0B, 0x0D, 0x0E]
  | .look (.wordEdge _ _) _ => [0x30, 0x3A, 0x41, 0x5B, 0x5F, 0x60, 0x61, 0x7B]
  | _ => []

def boundaries (p : Program) : List Nat :=
  p.instrs.toList.foldl (fun found i =>
    (boundariesOf i).foldl (fun found n => found.insert n) found) []

def letters (p : Program) : List UInt8 :=
  let marks := p.boundaries
  ((List.range 256).filter fun b => b = 0 || marks.contains b).map (·.toUInt8)

end Program

end Keypad.Automaton
