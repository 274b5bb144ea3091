import Keypad.Proofs.Block
/-!
The code of a form carries a thread over exactly the words that the form matches. The code has the
size that `codeSize` tells, and each way of building it is a block for the relation of the form.
-/
namespace Keypad.Pattern.Between

variable {R : Between} {before word after : List UInt8}

def times (min : Nat) (max : Option Nat) (R : Between) : Between := fun before word after =>
  ∃ n, min ≤ n ∧ (∀ m ∈ max, n ≤ m) ∧ R.power n before word after

theorem power_succ_last (n : Nat) :
    R.power (n + 1) before word after ↔ (R.power n).append R before word after := by
  rw [power_add]
  constructor
  · rintro ⟨u, v, rfl, hu, hv⟩
    exact ⟨u, v, rfl, hu, power_one.mp hv⟩
  · rintro ⟨u, v, rfl, hu, hv⟩
    exact ⟨u, v, rfl, hu, power_one.mpr hv⟩

@[simp] theorem times_exact {n : Nat} :
    R.times n (some n) before word after ↔ R.power n before word after := by
  constructor
  · rintro ⟨k, hle, hge, h⟩
    obtain rfl : k = n := Nat.le_antisymm (hge n rfl) hle
    exact h
  · intro h
    exact ⟨n, Nat.le_refl n, by simp, h⟩

theorem times_split (min : Nat) (max : Option Nat) (hle : ∀ m ∈ max, min ≤ m) :
    R.times min max before word after ↔
      (R.power min).append (R.times 0 (max.map (· - min))) before word after := by
  constructor
  · rintro ⟨n, hmin, hmax, h⟩
    rw [show n = min + (n - min) by omega, power_add] at h
    obtain ⟨u, v, rfl, hu, hv⟩ := h
    refine ⟨u, v, rfl, hu, n - min, Nat.zero_le _, ?_, hv⟩
    intro m hm
    obtain ⟨k, hk, rfl⟩ := Option.map_eq_some_iff.mp hm
    have := hmax k hk
    omega
  · rintro ⟨u, v, rfl, hu, n, -, hmax, hv⟩
    refine ⟨min + n, Nat.le_add_right _ _, ?_, (power_add min n).mpr ⟨u, v, rfl, hu, hv⟩⟩
    intro m hm
    have := hmax (m - min) (by simpa using ⟨m, hm, rfl⟩)
    have := hle m hm
    omega

theorem times_zero (max : Option Nat) : R.times 0 (max.map (· + 1)) before word after ↔
    word = [] ∨ R.append (R.times 0 max) before word after := by
  constructor
  · rintro ⟨m, -, hm, hw⟩
    cases m with
    | zero => exact Or.inl hw
    | succ m =>
      obtain ⟨u, v, rfl, hu, hv⟩ := hw
      refine Or.inr ⟨u, v, rfl, hu, m, Nat.zero_le m, fun k hk => ?_, hv⟩
      exact Nat.le_of_succ_le_succ (hm (k + 1) (Option.mem_map_of_mem _ hk))
  · rintro (rfl | ⟨u, v, rfl, hu, m, -, hm, hv⟩)
    · exact ⟨0, Nat.le_refl 0, fun _ _ => Nat.zero_le _, rfl⟩
    · refine ⟨m + 1, Nat.zero_le _, fun k hk => ?_, u, v, rfl, hu, hv⟩
      obtain ⟨j, hj, rfl⟩ := Option.mem_map.mp hk
      exact Nat.succ_le_succ (hm j hj)

@[simp] theorem times_one :
    R.times 0 (some 1) before word after ↔ word = [] ∨ R before word after := by
  rw [show (some 1 : Option Nat) = (some 0).map (· + 1) from rfl, times_zero]
  refine or_congr_right ⟨?_, fun h => ⟨word, [], by simp, by simpa using h, times_exact.mpr rfl⟩⟩
  rintro ⟨u, v, rfl, hu, hv⟩
  obtain rfl := times_exact.mp hv
  simpa using hu

end Keypad.Pattern.Between

namespace Keypad.Automaton

open Keypad.Charset Keypad.Pattern

namespace Trie

def Spells : Trie → List UInt8 → Prop
  | none, _ => False
  | done, word => word = []
  | branch set tail rest, word =>
    (∃ b : UInt8, ∃ v, set.contains b.toNat = true ∧ word = b :: v ∧ tail.Spells v) ∨
      rest.Spells word

@[simp] theorem length_code (pc next : Nat) (t : Trie) : (t.code pc next).length = t.size := by
  induction t generalizing pc with
  | none => rfl
  | done => rfl
  | branch set tail rest ihTail ihRest =>
    simp only [code, size]
    split <;> split <;> simp [ihTail, ihRest] <;> omega

theorem length_branch (set : Intervals) (tail : Trie) (pc next : Nat) :
    (if tail = done then [Instr.byte set next]
      else .byte set (pc + 1) :: tail.code (pc + 1) next).length =
      if tail = done then 1 else 1 + tail.size := by
  split <;> simp [Nat.add_comm]

end Trie

theorem reads_single (b : UInt8) (word : List UInt8) :
    (∃ c : UInt8, Intervals.contains [Interval.single b.toNat] c.toNat = true ∧ word = [c]) ↔
    word = [b] := by
  constructor
  · rintro ⟨c, hc, rfl⟩
    simp [Intervals.contains, Interval.contains, Interval.single] at hc
    rw [UInt8.toNat_inj.mp (Nat.le_antisymm hc.2 hc.1)]
  · rintro rfl
    exact ⟨b, by simp [Intervals.contains, Interval.contains, Interval.single], rfl⟩

@[simp] theorem length_literalCode (pc next : Nat) (bs : List UInt8) :
    (literalCode next pc bs).length = bs.length := by
  fun_induction literalCode next pc bs <;> simp_all

section Pieces

variable {size : Nat} {body : Nat → Nat → Code}

theorem length_copies (h : ∀ pc next, (body pc next).length = size) (n pc : Nat) :
    (copies size body n pc).length = n * size := by
  induction n generalizing pc with
  | zero => simp [copies]
  | succ n ih => simp [copies, h, ih, Nat.succ_mul, Nat.add_comm]

theorem length_options (h : ∀ pc next, (body pc next).length = size) (greedy : Bool)
    (next n pc : Nat) : (options greedy size body next n pc).length = n * (size + 1) := by
  induction n generalizing pc with
  | zero => simp [options]
  | succ n ih => simp [options, h, ih, Nat.succ_mul]; omega

theorem length_iterateCode (h : ∀ pc next, (body pc next).length = size) (min : Nat)
    (max : Option Nat) (greedy consumes : Bool) (pc next : Nat) :
    (iterateCode min max greedy consumes size body pc next).length =
      iterateSize min max consumes size := by
  have hpred : 0 < min → (min - 1) * size + size = min * size := by
    intro hpos
    rw [← Nat.succ_mul]
    congr 1
    omega
  unfold iterateCode iterateSize
  split
  · split
    · simp [length_copies h, length_options h]
    · split
      · rfl
      · simp only [List.length_append, length_copies h, h]
        exact hpred (by omega)
  · split
    · cases consumes <;> simp [star, plus, h]
    · simp only [plus, List.length_append, length_copies h, h, List.length_cons, List.length_nil]
      have := hpred (by omega)
      omega

end Pieces

@[simp] theorem length_code (f : Form) (pc next : Nat) : (code f pc next).length = codeSize f := by
  induction f generalizing pc next with
  | empty => rfl
  | look l => rfl
  | literal bs => exact length_literalCode pc next bs
  | bytes s => rfl
  | chars s => exact Trie.length_code pc next _
  | iterate min max greedy sub ih => exact length_iterateCode ih min max greedy _ pc next
  | group i name sub ih => simp [code, codeSize, ih]
  | seq a b iha ihb => simp [code, codeSize, iha, ihb]
  | alt a b iha ihb => simp [code, codeSize, iha, ihb]

namespace Program

variable {p : Program}

theorem mem_branches_choice {greedy : Bool} {into past w : Nat} {passes : Look → Bool} :
    w ∈ (choice greedy into past).branches passes ↔ w = into ∨ w = past := by
  cases greedy <;> simp [choice, Instr.branches, or_comm]

theorem choice_ne_byte {greedy : Bool} {into past : Nat} (set : Intervals) (n : Nat) :
    choice greedy into past ≠ .byte set n := by
  cases greedy <;> simp [choice]

namespace Block

variable {holds : Conditions} {pc mid stop next size : Nat} {R : Between} {greedy : Bool}
  {body : Nat → Nat → Code}

theorem nothing : p.Block holds pc pc pc (R.power 0) where
  enters := by
    rintro before _ after rfl
    exact ⟨0, .stay⟩
  leaves := by
    intro n before word after x r _
    exact ⟨[], word, n, rfl, rfl, Nat.le_refl n, by simpa using r⟩

theorem optional (hc : p.at? pc = some (choice greedy (pc + 1) next))
    (h : p.Block holds (pc + 1) stop next R) (hle : pc + 1 ≤ stop) :
    p.Block holds pc stop next fun before word after => word = [] ∨ R before word after where
  enters := by
    intro before word after hw
    rcases hw with rfl | hw
    · exact ⟨1, .skip (branches_eq hc ▸ mem_branches_choice.mpr (Or.inr rfl)) .stay⟩
    · obtain ⟨n, r⟩ := h.enters hw
      exact ⟨n + 1, .skip (branches_eq hc ▸ mem_branches_choice.mpr (Or.inl rfl)) r⟩
  leaves := by
    intro n before word after x r hx
    obtain ⟨k, w, rfl, hw, r⟩ := r.leave hc choice_ne_byte (by omega)
    rcases mem_branches_choice.mp hw with rfl | rfl
    · obtain ⟨u, v, j, rfl, hu, hj, r⟩ := h.leaves r (by omega)
      exact ⟨u, v, j, rfl, Or.inr hu, by omega, r⟩
    · exact ⟨[], word, k, rfl, Or.inl rfl, by omega, by simpa using r⟩

theorem starConsuming (hc : p.at? pc = some (choice greedy (pc + 1) next))
    (h : p.Block holds (pc + 1) stop pc R) (hle : pc + 1 ≤ stop) :
    p.Block holds pc stop next (R.times 0 none) where
  enters := by
    rintro before word after ⟨n, -, -, hn⟩
    induction n generalizing before word with
    | zero =>
      obtain rfl := hn
      exact ⟨1, .skip (branches_eq hc ▸ mem_branches_choice.mpr (Or.inr rfl)) .stay⟩
    | succ n ih =>
      obtain ⟨u, v, rfl, hu, hv⟩ := hn
      obtain ⟨j, r⟩ := h.enters hu
      obtain ⟨k, r'⟩ := ih hv
      exact ⟨j + 1 + k, (Runs.skip
        (branches_eq hc ▸ mem_branches_choice.mpr (Or.inl rfl)) r).append r'⟩
  leaves := by
    intro n
    induction n using Nat.strong_induction_on with
    | _ n ih =>
      intro before word after x r hx
      obtain ⟨k, w, rfl, hw, r⟩ := r.leave hc choice_ne_byte (by omega)
      rcases mem_branches_choice.mp hw with rfl | rfl
      · obtain ⟨u, v, j, rfl, hu, hj, r⟩ := h.leaves r (by omega)
        obtain ⟨v, w, i, rfl, ⟨m, -, -, hm⟩, hi, r⟩ := ih j (by omega) r hx
        exact ⟨u ++ v, w, i, by simp,
          ⟨m + 1, Nat.zero_le _, by simp, u, v, rfl, by simpa using hu, hm⟩, by omega,
          by simpa using r⟩
      · exact ⟨[], word, k, rfl, ⟨0, Nat.le_refl 0, by simp, rfl⟩, by omega, by simpa using r⟩

theorem plus (hc : p.at? mid = some (choice greedy pc next)) (h : p.Block holds pc mid mid R)
    (hle : pc ≤ mid) : p.Block holds pc (mid + 1) next (R.times 1 none) where
  enters := by
    rintro before word after ⟨n, hn, -, hw⟩
    obtain ⟨n, rfl⟩ : ∃ k, n = k + 1 := ⟨n - 1, by omega⟩
    induction n generalizing before word with
    | zero =>
      obtain ⟨j, r⟩ := h.enters (Between.power_one.mp hw)
      have r' : p.Runs holds 1 mid (before ++ word) [] after next :=
        .skip (branches_eq hc ▸ mem_branches_choice.mpr (Or.inr rfl)) .stay
      exact ⟨j + 1, by simpa using r.append r'⟩
    | succ n ih =>
      obtain ⟨u, v, rfl, hu, hv⟩ := hw
      obtain ⟨j, r⟩ := h.enters hu
      obtain ⟨k, r'⟩ := ih (by omega) hv
      exact ⟨j + (k + 1), r.append
        (.skip (branches_eq hc ▸ mem_branches_choice.mpr (Or.inl rfl)) r')⟩
  leaves := by
    intro n
    induction n using Nat.strong_induction_on with
    | _ n ih =>
      intro before word after x r hx
      obtain ⟨u, v, j, rfl, hu, hj, r⟩ := h.leaves r (by omega)
      obtain ⟨k, w, rfl, hw, r'⟩ := r.leave hc choice_ne_byte (by omega)
      rcases mem_branches_choice.mp hw with rfl | rfl
      · obtain ⟨v, w, i, rfl, ⟨m, hm, -, hv⟩, hi, r''⟩ := ih k (by omega) r' hx
        exact ⟨u ++ v, w, i, by simp,
          ⟨m + 1, by omega, by simp, u, v, rfl, by simpa using hu, hv⟩, by omega,
          by simpa using r''⟩
      · exact ⟨u, v, k, rfl, ⟨1, Nat.le_refl 1, by simp, Between.power_one.mpr hu⟩, by omega, r'⟩

structure Carries (p : Program) (holds : Conditions) (size : Nat) (body : Nat → Nat → Code)
    (R : Between) : Prop where
  length : ∀ pc next, (body pc next).length = size
  block : ∀ {pc next}, p.Holds pc (body pc next) → p.Block holds pc (pc + size) next R

theorem copies (h : Carries p holds size body R) (n : Nat) {pc : Nat}
    (hp : p.Holds pc (copies size body n pc)) :
    p.Block holds pc (pc + n * size) (pc + n * size) (R.power n) := by
  induction n generalizing pc with
  | zero => simpa using nothing
  | succ n ih =>
    have hbody := h.block hp.left
    have hrest := hp.right
    rw [h.length] at hrest
    have := hbody.seq (ih hrest) (by omega) (by omega)
    rw [Nat.succ_mul, Nat.add_comm (n * size), ← Nat.add_assoc]
    exact this

theorem options (h : Carries p holds size body R) (n : Nat) {pc : Nat}
    (hp : p.Holds pc (options greedy size body next (n + 1) pc)) :
    p.Block holds pc (pc + (n + 1) * (size + 1)) next (R.times 0 (some (n + 1))) := by
  induction n generalizing pc with
  | zero =>
    simp only [Automaton.options, if_true, List.append_nil] at hp
    have hbody := h.block hp.tail
    have := optional hp.head hbody (by omega)
    rw [Nat.zero_add, Nat.one_mul, show pc + (size + 1) = pc + 1 + size by omega]
    exact this.congr fun before word after => Between.times_one.symm
  | succ n ih =>
    rw [Automaton.options] at hp
    simp only [Nat.succ_ne_zero, if_false] at hp
    have hbody := h.block hp.tail.left
    have hrest := hp.tail.right
    rw [h.length] at hrest
    have := optional hp.head (hbody.seq (ih hrest) (by omega) (by omega)) (by omega)
    rw [show pc + (n + 1 + 1) * (size + 1) = pc + 1 + size + (n + 1) * (size + 1) by
      rw [Nat.succ_mul (n + 1)]; omega]
    exact this.congr fun before word after => (Between.times_zero (some (n + 1))).symm

theorem star {consumes : Bool} (h : Carries p holds size body R)
    (hp : p.Holds pc (star greedy consumes size body pc next)) :
    p.Block holds pc (pc + iterateSize 0 none consumes size) next (R.times 0 none) := by
  cases consumes with
  | true =>
    simp only [Automaton.star, if_true] at hp
    have := starConsuming hp.head (h.block hp.tail) (by omega)
    simpa [iterateSize, Nat.add_assoc, Nat.add_comm 1] using this
  | false =>
    simp only [Automaton.star, Automaton.plus] at hp
    have hbody := h.block hp.tail.left
    have hloop := hp.tail.right.head
    rw [h.length] at hloop
    have := optional hp.head (plus hloop hbody (by omega)) (by omega)
    rw [show pc + iterateSize 0 none false size = pc + 1 + size + 1 by simp [iterateSize]; omega]
    refine this.congr fun before word after => ?_
    constructor
    · rintro (rfl | ⟨n, -, -, hw⟩)
      · exact ⟨0, Nat.le_refl 0, by simp, rfl⟩
      · exact ⟨n, Nat.zero_le n, by simp, hw⟩
    · rintro ⟨n, -, -, hw⟩
      cases n with
      | zero => exact Or.inl hw
      | succ n => exact Or.inr ⟨n + 1, by omega, by simp, hw⟩

theorem copiesThen (h : Carries p holds size body R) (n : Nat) {c : Code}
    (hle : pc + n * size ≤ stop)
    (hp : p.Holds pc (Automaton.copies size body n pc ++ c)) {S : Between}
    (hc : p.Holds (pc + n * size) c → p.Block holds (pc + n * size) stop next S) :
    p.Block holds pc stop next ((R.power n).append S) := by
  have hrest := hp.right
  rw [length_copies h.length] at hrest
  exact (copies h n hp.left).seq (hc hrest) (by omega) hle

theorem add_pred_mul {min : Nat} (hmin : 0 < min) (pc size : Nat) :
    pc + (min - 1) * size + size = pc + min * size := by
  rw [Nat.add_assoc, ← Nat.succ_mul, Nat.succ_eq_add_one, Nat.sub_add_cancel hmin]

theorem copiesPlus {min : Nat} (hmin : 0 < min) (h : Carries p holds size body R)
    (hp : p.Holds pc (Automaton.copies size body (min - 1) pc ++
      Automaton.plus greedy size body (pc + (min - 1) * size) next)) :
    p.Block holds pc (pc + min * size + 1) next (R.times min none) := by
  rw [← add_pred_mul hmin]
  have hloop : ∀ {c : Nat}, p.Holds c (Automaton.plus greedy size body c next) →
      p.Block holds c (c + size + 1) next (R.times 1 none) := by
    intro c hp
    have hchoice := hp.right.head
    rw [h.length] at hchoice
    exact plus hchoice (h.block hp.left) (by omega)
  refine (copiesThen h (min - 1) (by omega) hp hloop).congr fun before word after => ?_
  constructor
  · rintro ⟨u, v, rfl, hu, n, hn, -, hv⟩
    exact ⟨min - 1 + n, by omega, by simp, (Between.power_add _ n).mpr ⟨u, v, rfl, hu, hv⟩⟩
  · rintro ⟨n, hn, -, hw⟩
    rw [show n = min - 1 + (n - min + 1) by omega, Between.power_add] at hw
    obtain ⟨u, v, rfl, hu, hv⟩ := hw
    exact ⟨u, v, rfl, hu, n - min + 1, by omega, by simp, hv⟩

theorem iterate {min : Nat} {max : Option Nat} {consumes : Bool} (h : Carries p holds size body R)
    (hle : ∀ m ∈ max, min ≤ m)
    (hp : p.Holds pc (iterateCode min max greedy consumes size body pc next)) :
    p.Block holds pc (pc + iterateSize min max consumes size) next (R.times min max) := by
  unfold iterateCode at hp
  unfold iterateSize
  split at hp
  · next m =>
    have hmin := hle m rfl
    split at hp
    · next hlt =>
      rw [if_pos hlt, ← Nat.add_assoc]
      obtain ⟨k, hk⟩ : ∃ k, m - min = k + 1 := ⟨m - min - 1, by omega⟩
      rw [hk] at hp ⊢
      refine (copiesThen h min (by omega) hp fun hp => options h k hp).congr
        fun before word after => ?_
      rw [Between.times_split min (some m) hle, Option.map_some, hk]
    · next hlt =>
      obtain rfl : m = min := by omega
      rw [if_neg hlt]
      split at hp
      · next hz =>
        subst hz
        rw [if_pos rfl]
        refine (skip hp.head (by simp) (by simp [Instr.branches])).congr fun before word after => ?_
        rw [Between.times_exact]
        rfl
      · next hz =>
        rw [if_neg hz, ← add_pred_mul (by omega)]
        refine (copiesThen h (m - 1) (by omega) hp fun hp => h.block hp).congr
          fun before word after => ?_
        rw [Between.times_exact, ← Between.power_succ_last, Nat.sub_add_cancel (by omega)]
  · split at hp
    · next hz =>
      subst hz
      exact star h hp
    · next hz =>
      rw [if_neg hz, ← Nat.add_assoc]
      exact copiesPlus (Nat.pos_of_ne_zero hz) h hp

theorem literal {bs : List UInt8} (hbs : bs ≠ []) (hp : p.Holds pc (literalCode next pc bs)) :
    p.Block holds pc (pc + bs.length) next fun _ word _ => word = bs := by
  fun_induction literalCode next pc bs with
  | case1 => exact absurd rfl hbs
  | case2 pc b => exact (byte hp.head).congr fun _ word _ => reads_single b word
  | case3 pc b rest hrest ih =>
    have hne : rest ≠ [] := by simpa using hrest
    have := (byte hp.head).seq (ih hne hp.tail) (by omega) (by omega)
    rw [List.length_cons, Nat.add_comm rest.length, ← Nat.add_assoc]
    refine this.congr fun before word after => ?_
    constructor
    · rintro ⟨u, v, rfl, hu, rfl⟩
      rw [(reads_single b u).mp hu]
      rfl
    · rintro rfl
      exact ⟨[b], rest, rfl, (reads_single b _).mpr rfl, rfl⟩

theorem trie {t : Trie} (hp : p.Holds pc (t.code pc next)) :
    p.Block holds pc (pc + t.size) next fun _ word _ => t.Spells word := by
  induction t generalizing pc with
  | none =>
    refine ⟨fun h => h.elim, ?_⟩
    intro n before word after x r hx
    obtain ⟨k, w, -, hw, -⟩ := r.leave hp.head (by simp) (by simp [Trie.size] at hx; omega)
    simp [Instr.branches] at hw
  | done =>
    exact skip hp.head (by simp) (by simp [Instr.branches])
  | branch set tail rest ihTail ihRest =>
    have hhere : ∀ {c : Nat}, p.Holds c
        (if tail = .done then [.byte set next] else .byte set (c + 1) :: tail.code (c + 1) next) →
        p.Block holds c (c + if tail = .done then 1 else 1 + tail.size) next fun _ word _ =>
          ∃ b : UInt8, ∃ v, set.contains b.toNat = true ∧ word = b :: v ∧ tail.Spells v := by
      intro c hp
      by_cases ht : tail = .done
      · subst ht
        rw [if_pos rfl] at hp ⊢
        refine (byte hp.head).congr fun _ word _ => ?_
        simp [Trie.Spells]
      · rw [if_neg ht] at hp ⊢
        have := (byte hp.head).seq (ihTail hp.tail) (by omega) (by omega)
        rw [← Nat.add_assoc]
        refine this.congr fun _ word _ => ?_
        constructor
        · rintro ⟨_, v, rfl, ⟨b, hb, rfl⟩, hv⟩
          exact ⟨b, v, hb, rfl, hv⟩
        · rintro ⟨b, v, hb, rfl, hv⟩
          exact ⟨[b], v, rfl, ⟨b, hb, rfl⟩, hv⟩
    simp only [Trie.code] at hp
    simp only [Trie.size]
    by_cases hr : rest = .none
    · subst hr
      rw [if_pos rfl] at hp ⊢
      refine (hhere hp).congr fun _ word _ => ?_
      simp [Trie.Spells]
    · rw [if_neg hr] at hp ⊢
      have hsecond := hp.tail.right
      rw [Trie.length_branch] at hsecond
      have := alt hp.head (hhere hp.tail.left) (ihRest hsecond) (by omega) (by omega)
      rw [show pc + ((if tail = .done then 1 else 1 + tail.size) + (1 + rest.size)) =
        pc + 1 + (if tail = .done then 1 else 1 + tail.size) + rest.size by omega]
      exact this.congr fun _ word _ => Iff.rfl

end Block

end Program

end Keypad.Automaton
