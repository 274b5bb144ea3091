import Keypad.Charset.Intervals
import Keypad.Pattern.Look
/-!
The normal form of a pattern, which says what is matched and in which order of preference, and no
longer how it was written. Sequences and alternatives nest to the right. The constructors `concat`,
`alternate`, `classOf` and `iterated` keep the form small: no empty parts, neighbouring literals
joined, alternatives of single characters made into one class, a common start drawn out.
-/
namespace Keypad.Pattern

open Keypad.Charset

inductive Form
  | empty
  | look (l : Look)
  | literal (bytes : List UInt8)
  | bytes (s : Intervals)
  | chars (s : Intervals)
  | iterate (min : Nat) (max : Option Nat) (greedy : Bool) (sub : Form)
  | group (index : Nat) (name : Option String) (sub : Form)
  | seq (first rest : Form)
  | alt (first rest : Form)
  deriving DecidableEq, Repr, Inhabited

namespace Form

def fail : Form := .bytes []

def utf8Length (n : Nat) : Nat :=
  if n < 0x80 then 1 else if n < 0x800 then 2 else if n < 0x10000 then 3 else 4

def add? : Option Nat → Option Nat → Option Nat
  | some a, some b => some (a + b)
  | _, _ => none

def minLength : Form → Option Nat
  | .empty | .look _ => some 0
  | .literal bs => some bs.length
  | .bytes s => if s.isEmpty then none else some 1
  | .chars s => s.head?.map (utf8Length ·.lo)
  | .iterate min _ _ sub => sub.minLength.map (· * min)
  | .group _ _ sub => sub.minLength
  | .seq a b => add? a.minLength b.minLength
  | .alt a b =>
    match a.minLength, b.minLength with
    | some m, some n => some (min m n)
    | _, _ => none

def maxLength : Form → Option Nat
  | .empty | .look _ => some 0
  | .literal bs => some bs.length
  | .bytes s => if s.isEmpty then none else some 1
  | .chars s => s.getLast?.map (utf8Length ·.hi)
  | .iterate _ max _ sub =>
    match max, sub.maxLength with
    | some n, some m => some (m * n)
    | _, _ => none
  | .group _ _ sub => sub.maxLength
  | .seq a b => add? a.maxLength b.maxLength
  | .alt a b =>
    match a.maxLength, b.maxLength with
    | some m, some n => some (max m n)
    | _, _ => none

def size : Form → Nat
  | .iterate _ _ _ sub | .group _ _ sub => sub.size + 1
  | .seq a b | .alt a b => a.size + b.size + 1
  | .literal bs => bs.length + 1
  | _ => 1

def parts : Form → List Form
  | .seq a b => a :: b.parts
  | f => [f]

def branches : Form → List Form
  | .alt a b => a :: b.branches
  | f => [f]

def ofParts : List Form → Form
  | [] => .empty
  | [f] => f
  | f :: fs => .seq f (ofParts fs)

def ofBranches : List Form → Form
  | [] => fail
  | [f] => f
  | f :: fs => .alt f (ofBranches fs)

def classOf (d : Domain) (s : Intervals) : Form :=
  if s.isEmpty then fail
  else match s.single?, d with
    | some n, .byte => .literal [n.toUInt8]
    | some n, .scalar => .literal (Text.Utf8.encodeChar (Char.ofNat n))
    | none, .byte => .bytes s
    | none, .scalar => .chars s

def iterated (min : Nat) (max : Option Nat) (greedy : Bool) (sub : Form) : Form :=
  let empty := sub.maxLength == some 0
  let lo := if empty then Nat.min min 1 else min
  let hi := if empty then some ((max.map (Nat.min · 1)).getD 1) else max
  if lo = 0 ∧ hi = some 0 then .empty
  else if lo = 1 ∧ hi = some 1 then sub
  else .iterate lo hi greedy sub

def joinLiterals : List Form → List Form
  | [] => []
  | .empty :: rest => joinLiterals rest
  | .literal bs :: rest =>
    match joinLiterals rest with
    | .literal cs :: more => .literal (bs ++ cs) :: more
    | more => .literal bs :: more
  | f :: rest => f :: joinLiterals rest

def concat (fs : List Form) : Form := ofParts (joinLiterals (fs.flatMap parts))

def char? : Form → Option Nat
  | .literal bs =>
    match Text.Utf8.first? bs with
    | some c => if Text.Utf8.encodeChar c = bs then some c.toNat else none
    | none => none
  | _ => none

def byte? : Form → Option Nat
  | .literal [b] => some b.toNat
  | _ => none

def isAscii (s : Intervals) : Bool := s.all (·.hi ≤ 0x7F)

def charClass? : Form → Option Intervals
  | .chars s => some s
  | .bytes s => if isAscii s then some s else none
  | _ => none

def byteClass? : Form → Option Intervals
  | .bytes s => some s
  | .chars s => if isAscii s then some s else none
  | _ => none

def singles (ns : List Nat) : Intervals := Intervals.normalize (ns.map Interval.single)

def merged? (fs : List Form) : Option Form :=
  match fs.mapM char? with
  | some ns => some (classOf .scalar (singles ns))
  | none =>
    match fs.mapM byte? with
    | some ns => some (classOf .byte (singles ns))
    | none =>
      match fs.mapM charClass? with
      | some ss => some (classOf .scalar (Intervals.normalize ss.flatten))
      | none => (fs.mapM byteClass?).map fun ss => classOf .byte (Intervals.normalize ss.flatten)

def commonPrefix (xs ys : List Form) : List Form :=
  match xs, ys with
  | x :: xs, y :: ys => if x = y then x :: commonPrefix xs ys else []
  | _, _ => []

/-- The parts with which all of several sequences begin, and what each has left. -/
def sharedStart? (fs : List Form) : Option (List Form × List (List Form)) :=
  let isSeq : Form → Bool
    | .seq _ _ => true
    | _ => false
  match fs with
  | [] => none
  | f :: rest =>
    if fs.all isSeq then
      let common := rest.foldl (fun common g => commonPrefix common g.parts) f.parts
      if common.isEmpty then none
      else some (common, fs.map (·.parts.drop common.length))
    else none

/-- Alternatives in order of preference. The first argument bounds how often a common start is
drawn out. -/
def alternateWithin : Nat → List Form → Form
  | fuel, alts =>
    match alts.flatMap branches with
    | [] => fail
    | [f] => f
    | fs =>
      match merged? fs with
      | some f => f
      | none =>
        match fuel, sharedStart? fs with
        | fuel + 1, some (common, rests) =>
          concat (common ++ [alternateWithin fuel (rests.map concat)])
        | _, _ => ofBranches fs

def alternate (fs : List Form) : Form := alternateWithin (fs.foldr (fun f n => f.size + n) 1) fs

def groups : Form → List (Nat × Option String)
  | .group i n sub => (i, n) :: sub.groups
  | .iterate _ _ _ sub => sub.groups
  | .seq a b | .alt a b => a.groups ++ b.groups
  | _ => []

def looks : Form → List Look
  | .look l => [l]
  | .group _ _ sub | .iterate _ _ _ sub => sub.looks
  | .seq a b | .alt a b => a.looks ++ b.looks
  | _ => []

end Form

end Keypad.Pattern
