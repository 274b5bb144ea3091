import Keypad.Pattern.Form
/-!
Matching in order of preference. An attempt tries the ways on from a place, the preferred ones
first, and asks of the place behind each way what comes of it there; the first way from which
something comes counts. What comes of a place is what was noted on the way from there to the end,
such as the groups that took part.
-/
namespace Keypad.Pattern

open Keypad.Charset

variable {τ : Type}

abbrev Onward (τ : Type) := List UInt8 → List UInt8 → Option τ

abbrev Attempt (τ : Type) := List UInt8 → List UInt8 → Onward τ → Option τ

def prefer (greedy : Bool) (into past : Option τ) : Option τ :=
  if greedy then into.or past else past.or into

namespace Attempt

def stay : Attempt τ := fun before after onward => onward before after

def never : Attempt τ := fun _ _ _ => none

def check (l : Look) : Attempt τ := fun before after onward =>
  if l.holds (Edge.ofByte? before.getLast?) (Edge.ofByte? after.head?) then
    onward before after
  else none

def word (bs : List UInt8) : Attempt τ := fun before after onward =>
  if bs <+: after then onward (before ++ bs) (after.drop bs.length) else none

def byteOf (s : Intervals) : Attempt τ := fun before after onward =>
  match after with
  | b :: rest => if s.contains b.toNat then onward (before ++ [b]) rest else none
  | [] => none

def charOf (s : Intervals) : Attempt τ := fun before after onward =>
  match after.toByteArray.utf8DecodeChar? 0 with
  | some c => if s.contains c.toNat then word (Text.Utf8.encodeChar c) before after onward else none
  | none => none

def seq (A B : Attempt τ) : Attempt τ := fun before after onward =>
  A before after fun before after => B before after onward

def either (A B : Attempt τ) : Attempt τ := fun before after onward =>
  (A before after onward).or (B before after onward)

def allOf : List (Attempt τ) → Attempt τ
  | [] => stay
  | A :: As => seq A (allOf As)

def anyOf : List (Attempt τ) → Attempt τ
  | [] => never
  | A :: As => either A (anyOf As)

def exactly (A : Attempt τ) : Nat → Attempt τ
  | 0 => stay
  | n + 1 => seq A (exactly A n)

def upTo (greedy : Bool) (A : Attempt τ) : Nat → Attempt τ
  | 0 => stay
  | n + 1 => fun before after onward =>
    prefer greedy (A before after fun before after => upTo greedy A n before after onward)
      (onward before after)

/-- Any number of rounds, of which one that takes nothing is the last. -/
def many (greedy : Bool) (A : Attempt τ) (before after : List UInt8) (onward : Onward τ) :
    Option τ :=
  prefer greedy
    (A before after fun before' after' =>
      if after'.length < after.length then many greedy A before' after' onward
      else onward before' after')
    (onward before after)
  termination_by after.length

def times (min : Nat) (max : Option Nat) (greedy : Bool) (A : Attempt τ) : Attempt τ :=
  seq (exactly A min)
    (match max with
      | some n => upTo greedy A (n - min)
      | none => many greedy A)

def noting (note : τ → τ) (A : Attempt τ) : Attempt τ := fun before after onward =>
  A before after fun before after => (onward before after).map note

@[simp] theorem stay_seq (A : Attempt τ) : seq stay A = A := rfl

@[simp] theorem seq_stay (A : Attempt τ) : seq A stay = A := rfl

@[simp] theorem seq_assoc (A B C : Attempt τ) : seq (seq A B) C = seq A (seq B C) := rfl

@[simp] theorem either_never (A : Attempt τ) : either A never = A := by
  funext before after onward
  exact Option.or_none

@[simp] theorem either_assoc (A B C : Attempt τ) :
    either (either A B) C = either A (either B C) := by
  funext before after onward
  exact Option.or_assoc

@[simp] theorem allOf_append (As Bs : List (Attempt τ)) :
    allOf (As ++ Bs) = seq (allOf As) (allOf Bs) := by
  induction As with
  | nil => rfl
  | cons A As ih => rw [List.cons_append, allOf, ih, allOf, seq_assoc]

@[simp] theorem anyOf_append (As Bs : List (Attempt τ)) :
    anyOf (As ++ Bs) = either (anyOf As) (anyOf Bs) := by
  induction As with
  | nil => rfl
  | cons A As ih => rw [List.cons_append, anyOf, ih, anyOf, either_assoc]

@[simp] theorem allOf_singleton (A : Attempt τ) : allOf [A] = A := seq_stay A

@[simp] theorem anyOf_singleton (A : Attempt τ) : anyOf [A] = A := either_never A

end Attempt

namespace Form

variable (mark : Nat → Option String → τ → τ)

/-- Tries the ways of a form in its order of preference; `mark` notes the groups that take part. -/
def attempt : Form → Attempt τ
  | .empty => .stay
  | .look l => .check l
  | .literal bs => .word bs
  | .bytes s => .byteOf s
  | .chars s => .charOf s
  | .iterate min max greedy sub => .times min max greedy (attempt sub)
  | .group i name sub => .noting (mark i name) (attempt sub)
  | .seq a b => .seq (attempt a) (attempt b)
  | .alt a b => .either (attempt a) (attempt b)

end Form

end Keypad.Pattern
