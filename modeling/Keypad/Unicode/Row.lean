import Keypad.Charset.Intervals
/-!
A row of a table of characters: the names of a class, and its members as text. The members are
numbers to the base sixteen, single or as a range, set apart by blanks.
-/
namespace Keypad.Unicode

open Keypad.Charset

structure Row where
  names : List String
  members : String
  deriving Repr, Inhabited

def digitValue (c : Char) : Nat :=
  if c.isDigit then c.toNat - 0x30 else c.toNat - 0x41 + 10

/-- Reads ranges from left to right; `lo` is the start of a range whose end is being read. -/
def readRanges : List Char → Option Nat → Option Nat → List Interval
  | [], lo, n => close lo n
  | c :: rest, lo, n =>
    if c = ' ' ∨ c = '\n' then close lo n ++ readRanges rest none none
    else if c = '-' then readRanges rest n none
    else readRanges rest lo (some (n.getD 0 * 16 + digitValue c))
where
  close (lo n : Option Nat) : List Interval :=
    match lo, n with
    | some lo, some hi => [⟨lo, hi⟩]
    | none, some n => [Interval.single n]
    | _, none => []

namespace Row

def intervals (r : Row) : Intervals :=
  (readRanges r.members.toList none none).filter Interval.isOfScalars

def find? (name : String) (rows : List Row) : Option Row := rows.find? (·.names.contains name)

end Row

end Keypad.Unicode
