/-!
Sets of instructions that were entered. The members near a base, on either side of it, take a bit
each, so that a set stays small wherever in a long program its members lie.
-/
namespace Keypad.Automaton

/-- The members from the base on, and those below it counted downwards. -/
structure Visited where
  base : Nat
  above : Nat
  below : Nat
  deriving DecidableEq, Repr, Inhabited

namespace Visited

def empty (base : Nat) : Visited := ⟨base, 0, 0⟩

def contains (v : Visited) (n : Nat) : Bool :=
  if v.base ≤ n then v.above.testBit (n - v.base) else v.below.testBit (v.base - n - 1)

def insert (v : Visited) (n : Nat) : Visited :=
  if v.base ≤ n then { v with above := v.above ||| (1 <<< (n - v.base)) }
  else { v with below := v.below ||| (1 <<< (v.base - n - 1)) }

@[simp] theorem contains_empty (base n : Nat) : (empty base).contains n = false := by
  simp [empty, contains]

theorem testBit_or_bit (bits k j : Nat) :
    (bits ||| (1 <<< k)).testBit j = (decide (j = k) || bits.testBit j) := by
  rw [Nat.testBit_or, Nat.one_shiftLeft, Nat.testBit_two_pow, Bool.or_comm,
    decide_eq_decide.mpr eq_comm]

@[simp] theorem contains_insert (v : Visited) (m n : Nat) :
    (v.insert m).contains n = (decide (n = m) || v.contains n) := by
  unfold insert contains
  by_cases hm : v.base ≤ m <;> by_cases hn : v.base ≤ n <;>
    simp only [hm, hn, if_true, if_false, testBit_or_bit]
  · rw [decide_eq_decide.mpr (show n - v.base = m - v.base ↔ n = m by omega)]
  · rw [decide_eq_false (show ¬ n = m by omega), Bool.false_or]
  · rw [decide_eq_false (show ¬ n = m by omega), Bool.false_or]
  · rw [decide_eq_decide.mpr (show v.base - n - 1 = v.base - m - 1 ↔ n = m by omega)]

end Visited

end Keypad.Automaton
