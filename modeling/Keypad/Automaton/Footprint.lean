import Keypad.Limits
import Keypad.Automaton.Reach
import Keypad.Automaton.Subset
/-!
How much room the deterministic reading of a program takes, found by visiting all of its states.
Two costs grow with every state: that of the table, and that of the work of building it. Visiting
stops at the first state that takes one of them beyond its limit. The costs themselves are decided
by the engine that holds the table.
-/
namespace Keypad.Automaton

open Keypad.Pattern

structure Row where
  ended : Bool
  subset : Subset
  deriving DecidableEq, Repr

namespace Row

def key (r : Row) : List Nat := (if r.ended then 1 else 0) :: r.subset.key

def isDead (r : Row) : Bool := !r.ended && r.subset.dead

end Row

structure Tally where
  states : Nat
  stored : Nat
  deriving DecidableEq, Repr, Inhabited

namespace Tally

def add (t : Tally) (bytes : Nat) : Tally := ⟨t.states + 1, t.stored + bytes⟩

structure Below (t u : Tally) : Prop where
  states : t.states ≤ u.states
  stored : t.stored ≤ u.stored

end Tally

/-- What an engine needs for what it holds, in bytes. A cost never falls while states are added, and
every state costs something. -/
structure Engine where
  describe : Row → Nat
  table : Program → (stride : Nat) → Tally → Nat
  work : Program → Tally → Nat
  automaton : Program → (minimized : Bool) → (states : Nat) → Nat
  captures : Form → Nat
  table_mono : ∀ p stride {t u : Tally}, t.Below u → table p stride t ≤ table p stride u
  work_mono : ∀ p {t u : Tally}, t.Below u → work p t ≤ work p u
  states_le_table : ∀ p stride t, t.states ≤ table p stride t
  states_le_work : ∀ p t, t.states ≤ work p t

inductive LimitError
  | table (limit : Nat)
  | work (limit : Nat)
  deriving DecidableEq, Repr, Inhabited

namespace LimitError

def message : LimitError → String
  | .table n => s!"DFA exceeded size limit of {n} during determinization"
  | .work n => s!"determinization exceeded size limit of {n}"

end LimitError

def Engine.broken? (engine : Engine) (p : Program) (limits : Limits) (stride : Nat) (t : Tally) :
    Option LimitError :=
  match Limits.broken? limits.size (engine.table p stride t) with
  | some n => some (.table n)
  | none => (Limits.broken? limits.determinize (engine.work p t)).map .work

structure Survey where
  tally : Tally
  seen : Machine.Seen
  pending : List Row

namespace Survey

def empty : Survey := ⟨⟨0, 0⟩, Std.HashSet.emptyWithCapacity, []⟩

variable (engine : Engine) (p : Program) (limits : Limits) (stride : Nat)

def visit (s : Survey) (r : Row) : Except LimitError Survey :=
  if r.isDead || s.seen.contains r.key then .ok s
  else
    let tally := s.tally.add (engine.describe r)
    match engine.broken? p limits stride tally with
    | some e => .error e
    | none => .ok ⟨tally, s.seen.insert r.key, r :: s.pending⟩

def visitAll : Survey → List Row → Except LimitError Survey
  | s, [] => .ok s
  | s, r :: rest =>
    match visit engine p limits stride s r with
    | .ok s => visitAll s rest
    | .error e => .error e

end Survey

namespace Program

structure Move where
  ended : Bool
  edge : Edge
  targets : List Nat
  deriving DecidableEq, Repr

def move (p : Program) (s : Subset) (b : UInt8) : Move :=
  let after := Edge.ofByte b
  let live := p.resolved s after
  ⟨live.any p.isAccept, after, live.filterMap (p.read? b)⟩

def Move.row (p : Program) (m : Move) : Row := ⟨m.ended, p.subsetAt m.edge m.targets⟩

def successors (p : Program) (letters : List UInt8) (r : Row) : List Row :=
  (letters.map (p.move r.subset)).eraseReps.map (Move.row p) ++
    [⟨p.accepts r.subset, ⟨.other, []⟩⟩]

def follow (p : Program) (engine : Engine) (limits : Limits) (letters : List UInt8) (stride : Nat) :
    Nat → Survey → Except LimitError Survey
  | 0, s => .ok s
  | fuel + 1, s =>
    match s.pending with
    | [] => .ok s
    | r :: rest =>
      let found := p.successors letters r
      match Survey.visitAll engine p limits stride { s with pending := rest } found with
      | .ok s => follow p engine limits letters stride fuel s
      | .error e => .error e

def starts (p : Program) : List Row :=
  [Edge.other, .word, .none, .lineFeed, .carriageReturn].map fun e => ⟨false, p.start e⟩

def ceilPowerOfTwo (n : Nat) : Nat := if n ≤ 1 then 1 else 1 <<< ((n - 1).log2 + 1)

def stride (letters : List UInt8) : Nat := ceilPowerOfTwo (letters.length + 1)

def stateBound (p : Program) : Nat := 10 * Nat.pow (p.size + 2) (p.size + 1)

def surveyBound (p : Program) (limits : Limits) : Nat :=
  match limits.size, limits.determinize with
  | some n, _ | none, some n => n
  | none, none => p.stateBound

def survey (p : Program) (engine : Engine) (limits : Limits) : Except LimitError Tally := do
  let letters := p.letters
  let n := stride letters
  let s ← Survey.visitAll engine p limits n Survey.empty p.starts
  let s ← p.follow engine limits letters n (p.surveyBound limits) s
  return s.tally

end Program

end Keypad.Automaton
