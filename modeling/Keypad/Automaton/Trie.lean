import Keypad.Charset.Intervals
/-!
Sets of byte strings as branches on the next byte, and the strings that spell the characters of a
set. A character is split into digits to the base 64; digits with equal remainders share a branch.
-/
namespace Keypad.Automaton

open Keypad.Charset

inductive Trie
  | none
  | done
  | branch (set : Intervals) (tail rest : Trie)
  deriving DecidableEq, Repr, Inhabited

namespace Trie

def slice (s : Intervals) (base width : Nat) : Intervals :=
  (s.inter [⟨base, base + width - 1⟩]).map fun i => ⟨i.lo - base, i.hi - base⟩

structure Digits where
  digits : List Nat
  remainders : Intervals
  deriving Repr

def addDigit (d : Nat) (remainders : Intervals) : List Digits → List Digits
  | [] => [⟨[d], remainders⟩]
  | g :: rest =>
    if g.remainders = remainders then ⟨g.digits ++ [d], remainders⟩ :: rest
    else g :: addDigit d remainders rest

def digitsOf (s : Intervals) (first count width : Nat) : List Digits :=
  (List.range count).foldl
    (fun groups k =>
      let remainders := slice s ((first + k) * width) width
      if remainders.isEmpty then groups else addDigit (first + k) remainders groups) []

def ofDigits (base : Nat) (tails : Intervals → Trie) (groups : List Digits) : Trie :=
  groups.foldr
    (fun g rest =>
      branch (Intervals.normalize (g.digits.map fun d => Interval.single (base + d)))
        (tails g.remainders) rest) none

def tails : Nat → Intervals → Trie
  | 0, s => if s.isEmpty then none else done
  | n + 1, s => ofDigits 0x80 (tails n) (digitsOf s 0 64 (Nat.pow 64 n))

def append : Trie → Trie → Trie
  | none, t => t
  | done, t => t
  | branch set tail rest, t => branch set tail (rest.append t)

def spelled (s : Intervals) (lo hi base n : Nat) : Trie :=
  let s := s.inter [⟨lo, hi⟩]
  let width := Nat.pow 64 n
  ofDigits base (tails n) (digitsOf s (lo / width) (hi / width - lo / width + 1) width)

/-- The UTF-8 strings of a set of characters. A set may run over the surrogates, which have none. -/
def ofScalars (s : Intervals) : Trie :=
  let s := (Intervals.normalize s).inter Domain.scalars
  let ascii := s.inter [⟨0, 0x7F⟩]
  (if ascii.isEmpty then none else branch ascii done none).append
    ((spelled s 0x80 0x7FF 0xC0 1).append
      ((spelled s 0x800 0xFFFF 0xE0 2).append (spelled s 0x10000 0x10FFFF 0xF0 3)))

end Trie

end Keypad.Automaton
