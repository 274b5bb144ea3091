import Keypad.Automaton.Closure
import Keypad.Text.Utf8
import Keypad.Unicode.Property
/-!
The preferred match of a program. Threads are kept in order of preference: a match that starts
earlier comes first, then the order in which the instructions name their successors. Each thread
notes the groups it has left.
-/
namespace Keypad.Automaton

open Keypad.Pattern

abbrev Trail := List Nat

structure Neighbour where
  isWord : Bool
  isCharacter : Bool

def Neighbour.of (bytes : List UInt8) (c : Option Char) : Neighbour :=
  ⟨(c.map Unicode.isWordCharacter).getD false, bytes.isEmpty || c.isSome⟩

def holdsBetween (before after : List UInt8) (l : Look) : Bool :=
  match l with
  | .wordEdge kind true =>
    let near := Neighbour.of before (Text.Utf8.last? before)
    let far := Neighbour.of after (Text.Utf8.first? after)
    (near.isCharacter || !kind.needsBefore) && (far.isCharacter || !kind.needsAfter) &&
      kind.holds near.isWord far.isWord
  | l => l.holds (Edge.ofByte? before.head?) (Edge.ofByte? after.head?)

namespace Program

def isAcceptThread (p : Program) (t : Thread Trail) : Bool :=
  match p.at? t.pc with
  | some .accept => true
  | _ => false

def cutAtAccept (p : Program) : List (Thread Trail) → List (Thread Trail) × Option (Thread Trail)
  | [] => ([], none)
  | t :: rest =>
    if p.isAcceptThread t then ([], some t)
    else
      let (kept, hit) := cutAtAccept p rest
      (t :: kept, hit)

def readThread? (p : Program) (b : UInt8) (t : Thread Trail) : Option (Thread Trail) :=
  match p.at? t.pc with
  | some (.byte set next) => if set.contains b.toNat then some ⟨next, t.note⟩ else none
  | _ => none

/-- What is left of the threads at a place, and the best match so far. While nothing has matched, a
thread that starts here is added behind the others. -/
def arrive (p : Program) (before after : List UInt8) (best : Option Trail)
    (ts : List (Thread Trail)) :
    List (Thread Trail) × Option Trail :=
  let ts := if best.isNone then ts ++ [⟨0, []⟩] else ts
  let live := closure p (holdsBetween before after) (fun i trail => i :: trail) ts
  let (kept, hit) := p.cutAtAccept live
  (kept, (hit.map (·.note)).orElse fun _ => best)

def matchFrom (p : Program) :
    List UInt8 → Option Trail → List (Thread Trail) → List UInt8 → Option Trail
  | before, best, ts, [] => (p.arrive before [] best ts).2
  | before, best, ts, b :: rest =>
    let (kept, best) := p.arrive before (b :: rest) best ts
    let ts := kept.filterMap (p.readThread? b)
    if ts.isEmpty ∧ best.isSome then best else matchFrom p (b :: before) best ts rest

/-- The groups that take part in the preferred match within a text, if there is a match. -/
def preferredMatch (p : Program) (bytes : List UInt8) : Option Trail :=
  p.matchFrom [] none [] bytes

end Program

end Keypad.Automaton
