import Mathlib.Logic.Relation
import Mathlib.Tactic
import Keypad.Automaton.Closure
import Keypad.Automaton.Subset
/-!
The threads at one place of a text. A thread moves silently along the instructions that read nothing
until it waits; `settle` finds every instruction where some thread of its stack can wait, and finds
it once.
-/
namespace Keypad.Automaton

open Keypad.Pattern Relation

def Instr.branches (passes : Look → Bool) : Instr → List Nat
  | .fork a b => [a, b]
  | .jump next | .mark _ next => [next]
  | .look l next => if passes l then [next] else []
  | .byte _ _ | .accept | .stop => []

def Instr.waits (passes : Look → Bool) : Instr → Bool
  | .byte _ _ | .accept => true
  | .look l _ => !passes l
  | .fork _ _ | .jump _ | .mark _ _ | .stop => false

def Instr.noted {τ : Type} (onMark : Nat → τ → τ) (note : τ) : Instr → τ
  | .mark i _ => onMark i note
  | _ => note

namespace Program

variable {p : Program} {passes : Look → Bool} {pc : Nat}

def branches (p : Program) (passes : Look → Bool) (pc : Nat) : List Nat :=
  match p.at? pc with
  | some i => i.branches passes
  | none => []

def waits (p : Program) (passes : Look → Bool) (pc : Nat) : Bool :=
  match p.at? pc with
  | some i => i.waits passes
  | none => false

def noted {τ : Type} (p : Program) (onMark : Nat → τ → τ) (pc : Nat) (note : τ) : τ :=
  match p.at? pc with
  | some i => i.noted onMark note
  | none => note

def Silent (p : Program) (passes : Look → Bool) : Nat → Nat → Prop :=
  ReflTransGen fun v w => w ∈ p.branches passes v

theorem at?_eq_none (h : p.size ≤ pc) : p.at? pc = none :=
  Array.getElem?_eq_none h

theorem lt_size_of_waits (h : p.waits passes pc = true) : pc < p.size := by
  by_contra hn
  simp [waits, at?_eq_none (show p.size ≤ pc by omega)] at h

theorem branches_of_le (h : p.size ≤ pc) : p.branches passes pc = [] := by
  simp [branches, at?_eq_none h]

theorem length_branches_le : (p.branches passes pc).length ≤ 2 := by
  unfold branches
  cases p.at? pc with
  | none => simp
  | some i => cases i <;> simp [Instr.branches]; split <;> simp

theorem branches_of_waits (h : p.waits passes pc = true) : p.branches passes pc = [] := by
  unfold waits at h
  unfold branches
  cases hi : p.at? pc with
  | none => simp [hi] at h
  | some i => cases i <;> simp_all [Instr.branches, Instr.waits]

theorem silent_of_waits {w : Nat} (h : p.waits passes pc = true) (hs : p.Silent passes pc w) :
    w = pc := by
  rcases hs.cases_head with rfl | ⟨v, hv, _⟩
  · rfl
  · simp [branches_of_waits h] at hv

end Program

section Settle

variable {τ : Type} {p : Program} {passes : Look → Bool} {onMark : Nat → τ → τ}
  {seen : Visited} {t : Thread τ} {stack : List (Thread τ)} {fuel : Nat}

@[simp] theorem settle_nil : settle p passes onMark fuel seen [] = [] := by
  cases fuel <;> rfl

theorem settle_seen (h : seen.contains t.pc = true) :
    settle p passes onMark (fuel + 1) seen (t :: stack) =
      settle p passes onMark fuel seen stack := by
  simp [settle, h]

def pushed (p : Program) (passes : Look → Bool) (onMark : Nat → τ → τ) (t : Thread τ)
    (stack : List (Thread τ)) : List (Thread τ) :=
  (p.branches passes t.pc).map (⟨·, p.noted onMark t.pc t.note⟩) ++ stack

@[simp] theorem pcs_pushed : (pushed p passes onMark t stack).map (·.pc) =
    p.branches passes t.pc ++ stack.map (·.pc) := by
  simp [pushed, Function.comp_def]

theorem settle_new (h : seen.contains t.pc = false) :
    settle p passes onMark (fuel + 1) seen (t :: stack) =
      (if p.waits passes t.pc then [t] else []) ++
        settle p passes onMark fuel (seen.insert t.pc) (pushed p passes onMark t stack) := by
  unfold pushed
  rcases hi : p.at? t.pc with _ | i
  · simp [settle, h, hi, Program.waits, Program.branches]
  · cases i with
    | look l next =>
      cases hl : passes l <;>
        simp [settle, h, hi, hl, Program.waits, Program.branches, Program.noted, Instr.waits,
          Instr.branches, Instr.noted]
    | _ =>
      simp [settle, h, hi, Program.waits, Program.branches, Program.noted, Instr.waits,
        Instr.branches, Instr.noted]

def unseen (p : Program) (seen : Visited) : Nat :=
  (List.range p.size).countP fun n => !seen.contains n

theorem unseen_le : unseen p seen ≤ p.size := by
  simpa [unseen] using List.countP_le_length (p := fun n => !seen.contains n)
    (l := List.range p.size)

theorem unseen_insert_le {n : Nat} : unseen p (seen.insert n) ≤ unseen p seen := by
  apply List.countP_mono_left
  intro k _ hk
  simp only [Visited.contains_insert, Bool.not_or, Bool.and_eq_true] at hk
  exact hk.2

theorem unseen_insert_lt {n : Nat} (hn : n < p.size) (h : seen.contains n = false) :
    unseen p (seen.insert n) < unseen p seen := by
  have hcount : ∀ l : List Nat, n ∈ l →
      l.countP (fun k => !(seen.insert n).contains k) < l.countP fun k => !seen.contains k := by
    intro l hl
    simp only [Visited.contains_insert]
    induction l with
    | nil => cases hl
    | cons k l ih =>
      have hle : l.countP (fun k => !(decide (k = n) || seen.contains k)) ≤
          l.countP fun k => !seen.contains k :=
        List.countP_mono_left fun j _ hj => by simpa using (by simpa using hj : _ ∧ _).2
      rw [List.countP_cons, List.countP_cons]
      by_cases hk : k = n
      · subst hk
        simp only [h, decide_true, Bool.true_or, Bool.not_true, Bool.not_false, if_true,
          Bool.false_eq_true, if_false]
        omega
      · have hlt := ih (by simpa [Ne.symm hk] using hl)
        simp only [hk, decide_false, Bool.false_or]
        omega
  exact hcount _ (List.mem_range.mpr hn)

def load (p : Program) (seen : Visited) (stack : List (Thread τ)) : Nat :=
  stack.length + 2 * unseen p seen

theorem load_new_lt (h : seen.contains t.pc = false) :
    load p (seen.insert t.pc) (pushed p passes onMark t stack) < load p seen (t :: stack) := by
  simp only [pushed, load, List.length_append, List.length_map, List.length_cons]
  by_cases hn : t.pc < p.size
  · have hlt := unseen_insert_lt hn h
    have hb : (p.branches passes t.pc).length ≤ 2 := Program.length_branches_le
    omega
  · rw [Program.branches_of_le (by omega)]
    have hle : unseen p (seen.insert t.pc) ≤ unseen p seen := unseen_insert_le
    simp
    omega

theorem mem_settle {t' : Thread τ} (h : t' ∈ settle p passes onMark fuel seen stack) :
    p.waits passes t'.pc = true ∧ ∃ v ∈ stack.map (·.pc), p.Silent passes v t'.pc := by
  induction fuel generalizing seen stack with
  | zero => cases h
  | succ fuel ih =>
    cases stack with
    | nil => simp at h
    | cons t stack =>
      cases hs : seen.contains t.pc with
      | true =>
        rw [settle_seen hs] at h
        obtain ⟨hw, v, hv, hr⟩ := ih h
        exact ⟨hw, v, List.mem_cons_of_mem _ hv, hr⟩
      | false =>
        rw [settle_new hs, List.mem_append] at h
        rcases h with h | h
        · split at h
          · next hw =>
            obtain rfl := List.mem_singleton.mp h
            exact ⟨hw, _, List.mem_cons_self, .refl⟩
          · cases h
        · obtain ⟨hw, v, hv, hr⟩ := ih h
          refine ⟨hw, ?_⟩
          rw [pcs_pushed, List.mem_append] at hv
          rcases hv with hv | hv
          · exact ⟨t.pc, List.mem_cons_self, .head hv hr⟩
          · exact ⟨v, List.mem_cons_of_mem _ hv, hr⟩

def Closed (p : Program) (passes : Look → Bool) (seen : Visited) (stack : List (Thread τ)) : Prop :=
  ∀ v, seen.contains v = true → ∀ w ∈ p.branches passes v,
    seen.contains w = true ∨ w ∈ stack.map (·.pc)

theorem Closed.pop (h : Closed p passes seen (t :: stack)) (hs : seen.contains t.pc = true) :
    Closed p passes seen stack := by
  intro v hv w hw
  rcases h v hv w hw with hw | hw
  · exact Or.inl hw
  · rcases List.mem_cons.mp hw with rfl | hw
    · exact Or.inl hs
    · exact Or.inr hw

theorem Closed.push (h : Closed p passes seen (t :: stack)) (onMark : Nat → τ → τ) :
    Closed p passes (seen.insert t.pc) (pushed p passes onMark t stack) := by
  intro v hv w hw
  simp only [Visited.contains_insert, Bool.or_eq_true, decide_eq_true_eq] at hv ⊢
  rw [pcs_pushed, List.mem_append]
  rcases hv with rfl | hv
  · exact Or.inr (Or.inl hw)
  · rcases h v hv w hw with hw | hw
    · exact Or.inl (Or.inr hw)
    · rcases List.mem_cons.mp hw with rfl | hw
      · exact Or.inl (Or.inl rfl)
      · exact Or.inr (Or.inr hw)

theorem Closed.of_silent (h : Closed p passes seen ([] : List (Thread τ))) {v w : Nat}
    (hv : seen.contains v = true) (hr : p.Silent passes v w) : seen.contains w = true := by
  induction hr with
  | refl => exact hv
  | tail _ hw ih => simpa using h _ ih _ hw

theorem exists_mem_settle (hfuel : load p seen stack < fuel) (hc : Closed p passes seen stack)
    {v w : Nat} (hv : seen.contains v = true ∨ v ∈ stack.map (·.pc)) (hr : p.Silent passes v w)
    (hw : p.waits passes w = true) :
    seen.contains w = true ∨ w ∈ (settle p passes onMark fuel seen stack).map (·.pc) := by
  induction fuel generalizing seen stack v with
  | zero => omega
  | succ fuel ih =>
    cases stack with
    | nil =>
      exact Or.inl (hc.of_silent (by simpa using hv) hr)
    | cons t stack =>
      cases hs : seen.contains t.pc with
      | true =>
        rw [settle_seen hs]
        refine ih (by simp [load] at hfuel ⊢; omega) (hc.pop hs) ?_ hr
        rcases hv with hv | hv
        · exact Or.inl hv
        · rcases List.mem_cons.mp hv with rfl | hv
          · exact Or.inl hs
          · exact Or.inr hv
      | false =>
        rw [settle_new hs]
        have hlt : load p (seen.insert t.pc) (pushed p passes onMark t stack) <
          load p seen (t :: stack) := load_new_lt hs
        have hin := ih (by omega) (hc.push onMark) (v := v) ?_ hr
        · rw [Visited.contains_insert] at hin
          simp only [Bool.or_eq_true, decide_eq_true_eq] at hin
          rcases hin with (rfl | hin) | hin
          · exact Or.inr (by simp [hw])
          · exact Or.inl hin
          · exact Or.inr (by rw [List.map_append]; exact List.mem_append_right _ hin)
        · rw [Visited.contains_insert, pcs_pushed, List.mem_append]
          simp only [Bool.or_eq_true, decide_eq_true_eq]
          rcases hv with hv | hv
          · exact Or.inl (Or.inr hv)
          · rcases List.mem_cons.mp hv with rfl | hv
            · exact Or.inl (Or.inl rfl)
            · exact Or.inr (Or.inr hv)

theorem not_seen_of_mem_settle {t' : Thread τ} (h : t' ∈ settle p passes onMark fuel seen stack) :
    seen.contains t'.pc = false := by
  induction fuel generalizing seen stack with
  | zero => cases h
  | succ fuel ih =>
    cases stack with
    | nil => simp at h
    | cons t stack =>
      cases hs : seen.contains t.pc with
      | true => exact ih (settle_seen hs ▸ h)
      | false =>
        rw [settle_new hs, List.mem_append] at h
        rcases h with h | h
        · split at h
          · obtain rfl := List.mem_singleton.mp h
            exact hs
          · cases h
        · have hn := ih h
          rw [Visited.contains_insert, Bool.or_eq_false_iff] at hn
          exact hn.2

theorem nodup_settle : ((settle p passes onMark fuel seen stack).map (·.pc)).Nodup := by
  induction fuel generalizing seen stack with
  | zero => exact List.nodup_nil
  | succ fuel ih =>
    cases stack with
    | nil => simp
    | cons t stack =>
      cases hs : seen.contains t.pc with
      | true => rw [settle_seen hs]; exact ih
      | false =>
        rw [settle_new hs, List.map_append]
        split
        · refine List.nodup_cons.mpr ⟨?_, ih⟩
          intro hm
          obtain ⟨t', ht', heq⟩ := List.mem_map.mp hm
          have hn := not_seen_of_mem_settle ht'
          simp [heq] at hn
        · exact ih

end Settle

section Closure

variable {τ : Type} {p : Program} {passes : Look → Bool} {onMark : Nat → τ → τ}
  {ts : List (Thread τ)}

/-- Threads wait exactly where they come to silently. -/
theorem mem_map_closure {w : Nat} : w ∈ (closure p passes onMark ts).map (·.pc) ↔
    p.waits passes w = true ∧ ∃ v ∈ ts.map (·.pc), p.Silent passes v w := by
  unfold closure
  constructor
  · intro h
    obtain ⟨t, ht, rfl⟩ := List.mem_map.mp h
    exact mem_settle ht
  · rintro ⟨hw, v, hv, hr⟩
    generalize (ts.head?.map (·.pc)).getD 0 = base
    have hload : load p (.empty base) ts < ts.length + 2 * p.size + 1 := by
      have hle : unseen p (.empty base) ≤ p.size := unseen_le
      unfold load
      omega
    have hc : Closed p passes (.empty base) ts := by
      intro v hv
      simp at hv
    rcases exists_mem_settle hload hc (Or.inr hv) hr hw with h | h
    · simp at h
    · exact h

theorem nodup_closure : ((closure p passes onMark ts).map (·.pc)).Nodup := nodup_settle

namespace Program

theorem mem_waiting {pcs : List Nat} {w : Nat} : w ∈ p.waiting passes pcs ↔
    p.waits passes w = true ∧ ∃ v ∈ pcs, p.Silent passes v w := by
  unfold waiting
  rw [mem_map_closure]
  simp

theorem nodup_waiting {pcs : List Nat} : (p.waiting passes pcs).Nodup := nodup_closure

end Program

end Closure

end Keypad.Automaton
