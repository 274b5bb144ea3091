import Keypad.Pattern.Language
import Keypad.Proofs.Silent
/-!
Runs of a single thread, and pieces of code that carry a thread from their first instruction to the
instruction behind them exactly over the words of a relation. One lemma says for each way of putting
code together which relation the whole carries.
-/
namespace Keypad.Automaton

open Keypad.Charset Keypad.Pattern

abbrev Conditions := List UInt8 → List UInt8 → Look → Bool

def passesAt : Conditions := fun before after =>
  Look.holds (Edge.ofByte? before.getLast?) (Edge.ofByte? after.head?)

namespace Program

/-- A thread goes in `n` steps from one instruction to another and reads a word on its way. -/
inductive Runs (p : Program) (holds : Conditions) :
    Nat → Nat → List UInt8 → List UInt8 → List UInt8 → Nat → Prop
  | stay {pc : Nat} {before after : List UInt8} : Runs p holds 0 pc before [] after pc
  | skip {n v w x : Nat} {before word after : List UInt8}
      (h : w ∈ p.branches (holds before (word ++ after)) v)
      (r : Runs p holds n w before word after x) : Runs p holds (n + 1) v before word after x
  | read {n v w x : Nat} {before word after : List UInt8} {b : UInt8} (h : p.read? b v = some w)
      (r : Runs p holds n w (before ++ [b]) word after x) :
      Runs p holds (n + 1) v before (b :: word) after x

variable {p : Program} {holds : Conditions}

theorem Runs.append {m n v w x : Nat} {before first second after : List UInt8}
    (h : p.Runs holds m v before first (second ++ after) w)
    (h' : p.Runs holds n w (before ++ first) second after x) :
    p.Runs holds (m + n) v before (first ++ second) after x := by
  generalize hs : second ++ after = rest at h
  induction h with
  | stay => simpa using h'
  | skip hb _ ih =>
    subst hs
    rw [Nat.add_right_comm]
    exact .skip (by simpa using hb) (ih h' rfl)
  | read hb _ ih =>
    rw [Nat.add_right_comm]
    exact .read hb (ih (by simpa using h') hs)

def Holds (p : Program) (pc : Nat) (piece : Code) : Prop :=
  ∀ i (h : i < piece.length), p.at? (pc + i) = some piece[i]

theorem Holds.head {pc : Nat} {i : Instr} {c : Code} (h : p.Holds pc (i :: c)) :
    p.at? pc = some i := h 0 (by simp)

theorem Holds.tail {pc : Nat} {i : Instr} {c : Code} (h : p.Holds pc (i :: c)) :
    p.Holds (pc + 1) c := by
  intro k hk
  have := h (k + 1) (by simpa using hk)
  simpa [Nat.add_assoc, Nat.add_comm 1 k] using this

theorem Holds.left {pc : Nat} {c d : Code} (h : p.Holds pc (c ++ d)) : p.Holds pc c := by
  intro k hk
  have := h k (by simp; omega)
  rwa [List.getElem_append_left hk] at this

theorem Holds.right {pc : Nat} {c d : Code} (h : p.Holds pc (c ++ d)) :
    p.Holds (pc + c.length) d := by
  intro k hk
  have := h (c.length + k) (by simp; omega)
  rw [List.getElem_append_right (by omega)] at this
  simpa [Nat.add_assoc] using this

theorem branches_eq {pc : Nat} {i : Instr} {passes : Look → Bool} (h : p.at? pc = some i) :
    p.branches passes pc = i.branches passes := by
  simp [branches, h]

theorem read?_eq {pc next : Nat} {set : Intervals} {b : UInt8}
    (h : p.at? pc = some (.byte set next)) :
    p.read? b pc = if set.contains b.toNat then some next else none := by
  simp [read?, h]

theorem read?_eq_none {pc : Nat} {i : Instr} {b : UInt8} (h : p.at? pc = some i)
    (hi : ∀ set next, i ≠ .byte set next) : p.read? b pc = none := by
  cases i with
  | byte set next => exact absurd rfl (hi set next)
  | _ => simp [read?, h]

theorem Runs.leave {n pc x : Nat} {i : Instr} {before word after : List UInt8}
    (h : p.at? pc = some i) (hi : ∀ set next, i ≠ .byte set next)
    (r : p.Runs holds n pc before word after x) (hx : x ≠ pc) :
    ∃ k w, n = k + 1 ∧ w ∈ i.branches (holds before (word ++ after)) ∧
      p.Runs holds k w before word after x := by
  cases r with
  | stay => exact absurd rfl hx
  | skip hb r => exact ⟨_, _, rfl, branches_eq h ▸ hb, r⟩
  | read hb r => rw [read?_eq_none h hi] at hb; cases hb

/-- The code from `pc` up to `stop` carries threads to `next` over the words of `R`: it lets every
such word pass, and a thread that gets out of it has read one. -/
structure Block (p : Program) (holds : Conditions) (pc stop next : Nat) (R : Between) : Prop where
  enters : ∀ {before word after},
    R before word after → ∃ n, p.Runs holds n pc before word after next
  leaves : ∀ {n before word after x}, p.Runs holds n pc before word after x → (x < pc ∨ stop ≤ x) →
    ∃ u v k, word = u ++ v ∧ R before u (v ++ after) ∧ k ≤ n ∧
      p.Runs holds k next (before ++ u) v after x

namespace Block

variable {pc mid stop next : Nat} {R S : Between}

theorem congr (h : p.Block holds pc stop next R)
    (hRS : ∀ before word after, R before word after ↔ S before word after) :
    p.Block holds pc stop next S := by
  have : R = S := by
    funext before word after
    exact propext (hRS before word after)
  exact this ▸ h

theorem single {i : Instr} {ok : (Look → Bool) → Prop} (h : p.at? pc = some i)
    (hi : ∀ set n, i ≠ .byte set n)
    (hb : ∀ passes w, w ∈ i.branches passes ↔ w = next ∧ ok passes) :
    p.Block holds pc (pc + 1) next fun before word after =>
      word = [] ∧ ok (holds before after) where
  enters := by
    rintro before _ after ⟨rfl, hok⟩
    exact ⟨1, .skip (branches_eq h ▸ (hb _ _).mpr ⟨rfl, hok⟩) .stay⟩
  leaves := by
    intro n before word after x r hx
    obtain ⟨k, w, rfl, hw, r⟩ := r.leave h hi (by omega)
    obtain ⟨rfl, hok⟩ := (hb _ _).mp hw
    exact ⟨[], word, k, rfl, ⟨rfl, hok⟩, by omega, by simpa using r⟩

theorem skip {i : Instr} (h : p.at? pc = some i) (hi : ∀ set n, i ≠ .byte set n)
    (hb : ∀ passes, i.branches passes = [next]) :
    p.Block holds pc (pc + 1) next fun _ word _ => word = [] := by
  have hb' : ∀ passes w, w ∈ i.branches passes ↔ w = next ∧ True := by simp [hb]
  exact (single h hi hb').congr fun _ word _ => by simp

theorem byte {set : Intervals} (h : p.at? pc = some (.byte set next)) :
    p.Block holds pc (pc + 1) next fun _ word _ =>
      ∃ b : UInt8, set.contains b.toNat = true ∧ word = [b] where
  enters := by
    rintro before _ after ⟨b, hb, rfl⟩
    exact ⟨1, .read (by rw [read?_eq h, if_pos hb]) .stay⟩
  leaves := by
    intro n before word after x r hx
    cases r with
    | stay => omega
    | skip hb _ => simp [branches_eq h, Instr.branches] at hb
    | read hb r =>
      rw [read?_eq h] at hb
      split at hb
      · next hc =>
        obtain rfl := Option.some.inj hb
        exact ⟨[_], _, _, rfl, ⟨_, hc, rfl⟩, Nat.le_succ _, r⟩
      · cases hb

theorem seq (h : p.Block holds pc mid mid R) (h' : p.Block holds mid stop next S) (hle : pc ≤ mid)
    (hle' : mid ≤ stop) : p.Block holds pc stop next (R.append S) where
  enters := by
    rintro before _ after ⟨u, v, rfl, hu, hv⟩
    obtain ⟨m, hm⟩ := h.enters hu
    obtain ⟨n, hn⟩ := h'.enters hv
    exact ⟨m + n, hm.append hn⟩
  leaves := by
    intro n before word after x r hx
    obtain ⟨u, v, k, rfl, hu, hk, r⟩ := h.leaves r (by omega)
    obtain ⟨v, w, j, rfl, hv, hj, r⟩ := h'.leaves r (by omega)
    exact ⟨u ++ v, w, j, by simp, ⟨u, v, rfl, by simpa using hu, hv⟩, by omega, by simpa using r⟩

theorem alt (hf : p.at? pc = some (.fork (pc + 1) mid)) (h : p.Block holds (pc + 1) mid next R)
    (h' : p.Block holds mid stop next S) (hle : pc + 1 ≤ mid) (hle' : mid ≤ stop) :
    p.Block holds pc stop next fun before word after =>
      R before word after ∨ S before word after where
  enters := by
    intro before word after hw
    rcases hw with hw | hw
    · obtain ⟨n, r⟩ := h.enters hw
      exact ⟨n + 1, .skip (by simp [branches_eq hf, Instr.branches]) r⟩
    · obtain ⟨n, r⟩ := h'.enters hw
      exact ⟨n + 1, .skip (by simp [branches_eq hf, Instr.branches]) r⟩
  leaves := by
    intro n before word after x r hx
    obtain ⟨k, w, rfl, hw, r⟩ := r.leave hf (by simp) (by omega)
    simp only [Instr.branches, List.mem_cons, List.not_mem_nil, or_false] at hw
    rcases hw with rfl | rfl
    · obtain ⟨u, v, j, rfl, hu, hj, r⟩ := h.leaves r (by omega)
      exact ⟨u, v, j, rfl, Or.inl hu, by omega, r⟩
    · obtain ⟨u, v, j, rfl, hu, hj, r⟩ := h'.leaves r (by omega)
      exact ⟨u, v, j, rfl, Or.inr hu, by omega, r⟩

end Block

end Program

end Keypad.Automaton
