import Keypad.Pattern.Printer
import Keypad.Proofs.Normal
/-!
What the written form of a form says. An operator is written behind what it repeats with no bracket
in between, so a question mark that makes something optional turns into the mark of laziness when
the part before it ends in an operator. Everything else is read as it was meant.
-/
namespace Keypad.Pattern

theorem Between.power.mono {R S : Between} {n : Nat} {before word after : List UInt8}
    (h : R.power n before word after) (hRS : ∀ {b w a}, R b w a → S b w a) :
    S.power n before word after := by
  induction n generalizing before word with
  | zero => exact h
  | succ n ih =>
    obtain ⟨u, v, hword, hu, hv⟩ := h
    exact ⟨u, v, hword, hRS hu, ih hv⟩

namespace Form

/-- The form is written with an operator at its end that a question mark behind it makes lazy. -/
def endsOpen : Form → Bool
  | .iterate min max greedy sub =>
    if min = 0 ∧ max = some 1 then greedy != sub.endsOpen
    else if min = 1 ∧ max = some 1 then sub.endsOpen
    else greedy || max = some min
  | _ => false

def lazily : Form → Form
  | .iterate min max _ sub => .iterate min max false sub
  | f => f

/-- What the written form of a form is read as. -/
def reread : Form → Form
  | .iterate min max greedy sub =>
    if min = 0 ∧ max = some 1 ∧ sub.endsOpen then
      if greedy then sub.reread.lazily else .iterate 0 (some 1) true sub.reread.lazily
    else if min = 1 ∧ max = some 1 then sub.reread
    else .iterate min max (greedy || max = some min) sub.reread
  | .group i name sub => .group i name sub.reread
  | .seq a b => .seq a.reread b.reread
  | .alt a b => .alt a.reread b.reread
  | f => f

/-- Nothing is lost by writing the form: what a question mark fails to make optional can match the
empty word at every place anyway. -/
def Legible : Form → Prop
  | .iterate min max greedy sub =>
    (min = 0 → max = some 1 → greedy = true → sub.endsOpen = true →
      ∀ before after, sub.Matches before [] after) ∧ sub.Legible
  | .group _ _ sub => sub.Legible
  | .seq a b | .alt a b => a.Legible ∧ b.Legible
  | .empty | .look _ | .literal _ | .bytes _ | .chars _ => True

variable {f : Form} {before word after : List UInt8}

theorem matches_lazily (f : Form) : f.lazily.Matches = f.Matches := by
  cases f <;> rfl

theorem matches_optional (greedy : Bool) (h : ∀ before after, f.Matches before [] after) :
    (iterate 0 (some 1) greedy f).Matches = f.Matches := by
  refine Between.ext fun before word after => ?_
  constructor
  · rintro ⟨n, -, hmax, hpower⟩
    have hn : n ≤ 1 := hmax 1 rfl
    by_cases hzero : n = 0
    · subst hzero
      have hword : word = [] := hpower
      subst hword
      exact h before after
    · have hone : n = 1 := by omega
      subst hone
      exact Between.power_one.mp hpower
  · intro hmatch
    exact ⟨1, Nat.zero_le 1, fun m hm => by simp at hm; omega, Between.power_one.mpr hmatch⟩

/-- What is read back of a form never matches more than the form: a question mark can only be
lost. -/
theorem matches_of_reread (h : f.reread.Matches before word after) :
    f.Matches before word after := by
  induction f generalizing before word after with
  | empty | look | literal | bytes | chars => exact h
  | iterate min max greedy sub ih =>
    rw [reread] at h
    by_cases hopen : min = 0 ∧ max = some 1 ∧ sub.endsOpen
    · obtain ⟨rfl, rfl, hends⟩ := hopen
      rw [if_pos ⟨rfl, rfl, hends⟩] at h
      by_cases hgreedy : greedy = true
      · rw [if_pos hgreedy, matches_lazily] at h
        exact ⟨1, Nat.zero_le 1, by simp, Between.power_one.mpr (ih h)⟩
      · rw [if_neg hgreedy] at h
        obtain ⟨n, hmin, hmax, hpower⟩ := h
        rw [matches_lazily] at hpower
        exact ⟨n, hmin, hmax, hpower.mono ih⟩
    · rw [if_neg hopen] at h
      by_cases honce : min = 1 ∧ max = some 1
      · obtain ⟨rfl, rfl⟩ := honce
        rw [if_pos ⟨rfl, rfl⟩] at h
        exact (matches_iterate_once greedy sub).mpr (ih h)
      · rw [if_neg honce] at h
        obtain ⟨n, hmin, hmax, hpower⟩ := h
        exact ⟨n, hmin, hmax, hpower.mono ih⟩
  | group i name sub ih => exact ih h
  | seq a b iha ihb =>
    obtain ⟨u, v, hword, hu, hv⟩ := h
    exact ⟨u, v, hword, iha hu, ihb hv⟩
  | alt a b iha ihb => exact h.imp iha ihb

theorem Legible.matches_reread (h : f.Legible) : f.reread.Matches = f.Matches := by
  induction f with
  | empty | look | literal | bytes | chars => rfl
  | iterate min max greedy sub ih =>
    have hsub := ih h.2
    rw [reread]
    by_cases hopen : min = 0 ∧ max = some 1 ∧ sub.endsOpen
    · obtain ⟨rfl, rfl, hends⟩ := hopen
      rw [if_pos ⟨rfl, rfl, hends⟩]
      by_cases hgreedy : greedy = true
      · rw [if_pos hgreedy, matches_lazily, hsub, matches_optional]
        exact h.1 rfl rfl hgreedy hends
      · rw [if_neg hgreedy, matches_iterate, matches_iterate, matches_lazily, hsub]
    · rw [if_neg hopen]
      by_cases honce : min = 1 ∧ max = some 1
      · obtain ⟨rfl, rfl⟩ := honce
        rw [if_pos ⟨rfl, rfl⟩, hsub]
        exact Between.ext fun before word after => (matches_iterate_once greedy sub).symm
      · rw [if_neg honce, matches_iterate, matches_iterate, hsub]
  | group i name sub ih => exact ih h
  | seq a b iha ihb => rw [reread, matches_seq, matches_seq, iha h.1, ihb h.2]
  | alt a b iha ihb => rw [reread, matches_alt, matches_alt, iha h.1, ihb h.2]

end Form

end Keypad.Pattern
