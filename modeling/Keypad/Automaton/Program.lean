import Keypad.Pattern.Form
import Keypad.Automaton.Trie
/-!
Forms as programs for a machine that follows several threads. An instruction that reads a byte
waits for one; the others lead on at once. Where an instruction names two successors the first is
preferred. The code of a form stands in one piece from its first instruction on and leaves for the
instruction that comes next.
-/
namespace Keypad.Automaton

open Keypad.Charset Keypad.Pattern

inductive Instr
  | byte (set : Intervals) (next : Nat)
  | look (l : Look) (next : Nat)
  | fork (first second : Nat)
  | jump (next : Nat)
  | mark (group : Nat) (next : Nat)
  | accept
  | stop
  deriving DecidableEq, Repr, Inhabited

abbrev Code := List Instr

def choice (greedy : Bool) (into past : Nat) : Instr :=
  if greedy then .fork into past else .fork past into

namespace Trie

def size : Trie → Nat
  | none | done => 1
  | branch _ tail rest =>
    (if tail = done then 1 else 1 + tail.size) + (if rest = none then 0 else 1 + rest.size)

def code (pc next : Nat) : Trie → Code
  | none => [.stop]
  | done => [.jump next]
  | branch set tail rest =>
    let here (pc : Nat) : Code :=
      if tail = done then [.byte set next] else .byte set (pc + 1) :: tail.code (pc + 1) next
    if rest = none then here pc
    else
      let length := if tail = done then 1 else 1 + tail.size
      .fork (pc + 1) (pc + 1 + length) :: (here (pc + 1) ++ rest.code (pc + 1 + length) next)

end Trie

def literalCode (next : Nat) : Nat → List UInt8 → Code
  | _, [] => []
  | _, [b] => [.byte [Interval.single b.toNat] next]
  | pc, b :: rest => .byte [Interval.single b.toNat] (pc + 1) :: literalCode next (pc + 1) rest

def copies (size : Nat) (body : Nat → Nat → Code) : Nat → Nat → Code
  | 0, _ => []
  | n + 1, pc => body pc (pc + size) ++ copies size body n (pc + size)

def options (greedy : Bool) (size : Nat) (body : Nat → Nat → Code) (next : Nat) : Nat → Nat → Code
  | 0, _ => []
  | n + 1, pc =>
    let after := if n = 0 then next else pc + 1 + size
    choice greedy (pc + 1) next ::
      (body (pc + 1) after ++ options greedy size body next n (pc + 1 + size))

def plus (greedy : Bool) (size : Nat) (body : Nat → Nat → Code) (pc next : Nat) : Code :=
  body pc (pc + size) ++ [choice greedy pc next]

def star (greedy consumes : Bool) (size : Nat) (body : Nat → Nat → Code) (pc next : Nat) : Code :=
  if consumes then choice greedy (pc + 1) next :: body (pc + 1) pc
  else choice greedy (pc + 1) next :: plus greedy size body (pc + 1) next

def iterateCode (min : Nat) (max : Option Nat) (greedy consumes : Bool) (size : Nat)
    (body : Nat → Nat → Code) (pc next : Nat) : Code :=
  match max with
  | some n =>
    if min < n then
      copies size body min pc ++ options greedy size body next (n - min) (pc + min * size)
    else if min = 0 then [.jump next]
    else copies size body (min - 1) pc ++ body (pc + (min - 1) * size) next
  | none =>
    if min = 0 then star greedy consumes size body pc next
    else copies size body (min - 1) pc ++ plus greedy size body (pc + (min - 1) * size) next

def iterateSize (min : Nat) (max : Option Nat) (consumes : Bool) (size : Nat) : Nat :=
  match max with
  | some n =>
    if min < n then min * size + (n - min) * (size + 1)
    else if min = 0 then 1
    else min * size
  | none => if min = 0 then (if consumes then size + 1 else size + 2) else min * size + 1

def consumes (f : Form) : Bool :=
  match f.minLength with
  | some n => 0 < n
  | none => false

def codeSize : Form → Nat
  | .empty | .look _ | .bytes _ => 1
  | .literal bs => bs.length
  | .chars s => (Trie.ofScalars s).size
  | .iterate min max _ sub => iterateSize min max (consumes sub) (codeSize sub)
  | .group _ _ sub => codeSize sub + 1
  | .seq a b => codeSize a + codeSize b
  | .alt a b => codeSize a + codeSize b + 1

/-- The code of a form from place `pc` on, leading to `next`. -/
def code : Form → Nat → Nat → Code
  | .empty, _, next => [.jump next]
  | .look l, _, next => [.look l next]
  | .literal bs, pc, next => literalCode next pc bs
  | .bytes s, _, next => [.byte s next]
  | .chars s, pc, next => (Trie.ofScalars s).code pc next
  | .iterate min max greedy sub, pc, next =>
    iterateCode min max greedy (consumes sub) (codeSize sub) (code sub) pc next
  | .group i _ sub, pc, next =>
    let stop := pc + codeSize sub
    code sub pc stop ++ [.mark i next]
  | .seq a b, pc, next =>
    let second := pc + codeSize a
    code a pc second ++ code b second next
  | .alt a b, pc, next =>
    let second := pc + 1 + codeSize a
    .fork (pc + 1) second :: (code a (pc + 1) next ++ code b second next)

structure Program where
  instrs : Array Instr
  deriving Inhabited

namespace Program

def ofForm (f : Form) : Program :=
  ⟨(code f 0 (codeSize f) ++ [Instr.accept]).toArray⟩

def size (p : Program) : Nat := p.instrs.size

def at? (p : Program) (pc : Nat) : Option Instr := p.instrs[pc]?

end Program

end Keypad.Automaton
