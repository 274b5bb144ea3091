/-!
Sets of numbers as lists of closed intervals. A list in normal form is ascending and leaves a gap
between neighbours, so that a set has one list. The numbers are bytes or Unicode scalar values; the
two domains differ in their last number and in the surrogates, which are no scalar values.
-/
namespace Keypad.Charset

structure Interval where
  lo : Nat
  hi : Nat
  deriving DecidableEq, Repr, Inhabited

namespace Interval

def contains (i : Interval) (n : Nat) : Bool := i.lo ≤ n && n ≤ i.hi

def single (n : Nat) : Interval := ⟨n, n⟩

def isOfScalars (i : Interval) : Bool :=
  i.lo ≤ i.hi && decide i.lo.isValidChar && decide i.hi.isValidChar

def inter? (i j : Interval) : Option Interval :=
  let lo := max i.lo j.lo
  let hi := min i.hi j.hi
  if lo ≤ hi then some ⟨lo, hi⟩ else none

end Interval

abbrev Intervals := List Interval

/-- Where the numbers of a set come from. -/
inductive Domain
  | byte
  | scalar
  deriving DecidableEq, Repr, Inhabited

namespace Domain

def last : Domain → Nat
  | .byte => 0xFF
  | .scalar => 0x10FFFF

def scalars : List Interval := [⟨0, 0xD7FF⟩, ⟨0xE000, 0x10FFFF⟩]

def clip : Domain → Interval → Option Interval
  | .byte, i => some i
  | .scalar, i =>
    let lo := if 0xD800 ≤ i.lo && i.lo ≤ 0xDFFF then 0xE000 else i.lo
    let hi := if 0xD800 ≤ i.hi && i.hi ≤ 0xDFFF then 0xD7FF else i.hi
    if lo ≤ hi then some ⟨lo, hi⟩ else none

end Domain

namespace Intervals

def contains (s : Intervals) (n : Nat) : Bool := s.any (·.contains n)

def join (cur : Interval) : List Interval → Intervals
  | [] => [cur]
  | i :: rest =>
    if i.lo ≤ cur.hi + 1 then join ⟨cur.lo, max cur.hi i.hi⟩ rest
    else cur :: join i rest

def normalize (s : List Interval) : Intervals :=
  match s.mergeSort (fun i j => i.lo < j.lo || (i.lo == j.lo && i.hi ≤ j.hi)) with
  | [] => []
  | i :: rest => join i rest

def union (s t : Intervals) : Intervals := normalize (s ++ t)

def inter : Intervals → Intervals → Intervals
  | [], _ => []
  | _ :: _, [] => []
  | i :: s, j :: t =>
    let rest := if i.hi < j.hi then inter s (j :: t) else inter (i :: s) t
    match i.inter? j with
    | some k => k :: rest
    | none => rest
  termination_by s t => s.length + t.length

def gaps (last : Nat) (n : Nat) : Intervals → Intervals
  | [] => if n ≤ last then [⟨n, last⟩] else []
  | i :: rest =>
    if n < i.lo then ⟨n, i.lo - 1⟩ :: gaps last (i.hi + 1) rest
    else gaps last (i.hi + 1) rest

def complement (d : Domain) (s : Intervals) : Intervals := (gaps d.last 0 s).filterMap d.clip

def diff (d : Domain) (s t : Intervals) : Intervals := inter s (complement d t)

def symmDiff (d : Domain) (s t : Intervals) : Intervals := diff d (union s t) (inter s t)

def single? : Intervals → Option Nat
  | [i] => if i.lo = i.hi then some i.lo else none
  | _ => none

def foldAscii (s : Intervals) : Intervals :=
  let shift (base target : Nat) : Intervals :=
    (inter s [⟨base, base + 25⟩]).map fun i => ⟨i.lo - base + target, i.hi - base + target⟩
  normalize (s ++ shift 0x61 0x41 ++ shift 0x41 0x61)

end Intervals

end Keypad.Charset
