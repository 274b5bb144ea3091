import Keypad.Pattern.Form
/-!
What a form matches: a word between what stands before it and what stands behind it. Conditions see
the neighbouring bytes; preference plays no part. The language of a form holds the texts that it
matches from end to end.
-/
namespace Keypad.Pattern

/-- A property of a word and the bytes on either side of it. -/
abbrev Between := List UInt8 → List UInt8 → List UInt8 → Prop

def Between.power (R : Between) : Nat → Between
  | 0, _, word, _ => word = []
  | n + 1, before, word, after =>
    ∃ u v, word = u ++ v ∧ R before u (v ++ after) ∧ power R n (before ++ u) v after

def Between.append (R S : Between) : Between := fun before word after =>
  ∃ u v, word = u ++ v ∧ R before u (v ++ after) ∧ S (before ++ u) v after

namespace Between

variable {R S T : Between} {before word after : List UInt8}

@[simp] theorem power_zero : R.power 0 before word after ↔ word = [] := Iff.rfl

@[simp] theorem power_one : R.power 1 before word after ↔ R before word after := by
  constructor
  · rintro ⟨u, v, rfl, hu, rfl⟩
    simpa using hu
  · intro h
    exact ⟨word, [], by simp, by simpa using h, rfl⟩

theorem append_assoc :
    (R.append S).append T before word after ↔ R.append (S.append T) before word after := by
  constructor
  · rintro ⟨_, w, rfl, ⟨u, v, rfl, hu, hv⟩, hw⟩
    exact ⟨u, v ++ w, by simp, by simpa using hu, v, w, rfl, hv, by simpa using hw⟩
  · rintro ⟨u, _, rfl, hu, v, w, rfl, hv, hw⟩
    exact ⟨u ++ v, w, by simp, ⟨u, v, rfl, by simpa using hu, hv⟩, by simpa using hw⟩

theorem power_add (m n : Nat) :
    R.power (m + n) before word after ↔ (R.power m).append (R.power n) before word after := by
  induction m generalizing before word with
  | zero =>
    rw [Nat.zero_add]
    constructor
    · intro h
      exact ⟨[], word, rfl, rfl, by simpa using h⟩
    · rintro ⟨_, v, rfl, rfl, hv⟩
      simpa using hv
  | succ m ih =>
    rw [Nat.succ_add]
    constructor
    · rintro ⟨u, _, rfl, hu, h⟩
      obtain ⟨v, w, rfl, hv, hw⟩ := ih.mp h
      exact ⟨u ++ v, w, by simp, ⟨u, v, rfl, by simpa using hu, hv⟩, by simpa using hw⟩
    · rintro ⟨_, w, rfl, ⟨u, v, rfl, hu, hv⟩, hw⟩
      exact ⟨u, v ++ w, by simp, by simpa using hu, ih.mpr ⟨v, w, rfl, hv, by simpa using hw⟩⟩

end Between

namespace Form

/-- The form matches `word` between `before` and `after`. -/
def Matches : Form → Between
  | .empty => fun _ word _ => word = []
  | .look l => fun before word after =>
    word = [] ∧ l.holds (Edge.ofByte? before.getLast?) (Edge.ofByte? after.head?) = true
  | .literal bs => fun _ word _ => word = bs
  | .bytes s => fun _ word _ => ∃ b : UInt8, s.contains b.toNat = true ∧ word = [b]
  | .chars s => fun _ word _ =>
    ∃ c : Char, s.contains c.toNat = true ∧ word = Text.Utf8.encodeChar c
  | .iterate min max _ sub => fun before word after =>
    ∃ n, min ≤ n ∧ (∀ m ∈ max, n ≤ m) ∧ Between.power (Matches sub) n before word after
  | .group _ _ sub => Matches sub
  | .seq a b => Between.append (Matches a) (Matches b)
  | .alt a b => fun before word after => Matches a before word after ∨ Matches b before word after

/-- The texts that a form matches from end to end. -/
def Language (f : Form) (text : List UInt8) : Prop := f.Matches [] text []

variable {before word after : List UInt8}

@[simp] theorem matches_fail : ¬ fail.Matches before word after := by
  rintro ⟨b, hb, _⟩
  simp [Charset.Intervals.contains] at hb

@[simp] theorem matches_iterate_once (g : Bool) (f : Form) :
    (iterate 1 (some 1) g f).Matches before word after ↔ f.Matches before word after := by
  constructor
  · rintro ⟨n, hmin, hmax, h⟩
    have hn : n = 1 := Nat.le_antisymm (hmax 1 rfl) hmin
    subst hn
    exact Between.power_one.mp h
  · intro h
    exact ⟨1, Nat.le_refl 1, fun m hm => by simp at hm; omega, Between.power_one.mpr h⟩

end Form

end Keypad.Pattern
