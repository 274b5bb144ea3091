/-!
Bounds on what compiling a pattern may use. A bound of `none` is no bound.
-/
namespace Keypad

structure Limits where
  size : Option Nat
  determinize : Option Nat
  minimize : Bool
  deriving DecidableEq, Repr

namespace Limits

def tenMebibytes : Nat := 10 * 1024 * 1024

def standard : Limits := ⟨some tenMebibytes, some tenMebibytes, false⟩

instance : Inhabited Limits := ⟨standard⟩

def withSize (l : Limits) (n : Option Nat) : Limits := { l with size := n }

def withDeterminize (l : Limits) (n : Option Nat) : Limits := { l with determinize := n }

def withMinimize (l : Limits) (b : Bool) : Limits := { l with minimize := b }

def broken? (limit : Option Nat) (cost : Nat) : Option Nat :=
  match limit with
  | none => none
  | some n => if n < cost then some n else none

@[simp] theorem broken?_eq_none_iff {limit : Option Nat} {cost : Nat} :
    broken? limit cost = none ↔ ∀ n ∈ limit, cost ≤ n := by
  cases limit with
  | none => simp [broken?]
  | some n => simp [broken?]

end Limits

end Keypad
