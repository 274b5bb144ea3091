import Mathlib.Tactic
import Keypad.Automaton.Reach
/-!
The depth-first search of a machine. It enters a state once, tests a state when it is discovered and
follows it later; the state from which it starts is never discovered. What it finds does not depend
on the order in which states are followed and letters are tried, so the steps are described for any
order first, and the search that takes the states from a stack is one of them. As long as the
machine has no more states than the search is told of, it ends with the answer whether some text
leads to another state that accepts.
-/
namespace Keypad.Automaton.Machine

variable {σ : Type} {m : Machine σ} {letters : List UInt8} {s : σ}

def Reaches (m : Machine σ) (letters : List UInt8) (s t : σ) : Prop :=
  ∃ w : List UInt8, (∀ b ∈ w, b ∈ letters) ∧ m.run s w = t

theorem Reaches.refl (s : σ) : m.Reaches letters s s := ⟨[], by simp, rfl⟩

theorem Reaches.step {t : σ} {b : UInt8} (h : m.Reaches letters s t) (hb : b ∈ letters) :
    m.Reaches letters s (m.step t b) := by
  obtain ⟨w, hw, rfl⟩ := h
  refine ⟨w ++ [b], ?_, by simp [run]⟩
  intro c hc
  rcases List.mem_append.mp hc with hc | hc
  · exact hw c hc
  · exact List.mem_singleton.mp hc ▸ hb

def LeadsOn (m : Machine σ) (letters : List UInt8) (s : σ) : Prop :=
  ∃ w : List UInt8, w ≠ [] ∧ (∀ b ∈ w, b ∈ letters) ∧ m.accepts (m.run s w) = true

def LeadsAway (m : Machine σ) (letters : List UInt8) (s : σ) : Prop :=
  ∃ t, m.Reaches letters s t ∧ t ≠ s ∧ m.accepts t = true

theorem leadsAway_iff (hquiet : m.accepts s = false) :
    m.LeadsAway letters s ↔ m.LeadsOn letters s := by
  constructor
  · rintro ⟨t, ⟨w, hw, rfl⟩, hne, ha⟩
    exact ⟨w, fun h => hne (by rw [h]; rfl), hw, ha⟩
  · rintro ⟨w, -, hw, ha⟩
    refine ⟨m.run s w, ⟨w, hw, rfl⟩, fun h => ?_, ha⟩
    rw [h, hquiet] at ha
    cases ha

structure Sinks (m : Machine σ) : Prop where
  step : ∀ {s}, m.dead s = true → ∀ b, m.dead (m.step s b) = true
  accepts : ∀ {s}, m.dead s = true → m.accepts s = false

theorem Sinks.run (h : m.Sinks) (hs : m.dead s = true) (w : List UInt8) :
    m.dead (m.run s w) = true := by
  induction w generalizing s with
  | nil => exact hs
  | cons b w ih => exact ih (h.step hs b)

def Lists (m : Machine σ) (seen : Seen) (visited : List σ) : Prop :=
  ∀ t, seen.contains (m.key t) = true ↔ t ∈ visited

theorem Lists.insert {seen : Seen} {visited : List σ} (hkey : Function.Injective m.key)
    (h : m.Lists seen visited) (t : σ) : m.Lists (seen.insert (m.key t)) (t :: visited) := by
  intro u
  rw [Std.HashSet.contains_insert, Bool.or_eq_true, h, List.mem_cons, beq_iff_eq, hkey.eq_iff]
  exact or_congr_left eq_comm

def Hits (m : Machine σ) (t : σ) (order : List UInt8) (seen : Seen) (stack fresh : List σ) : Prop :=
  ∃ tried b untried seen', order = tried ++ b :: untried ∧
    m.expand t tried seen stack = some (seen', fresh ++ stack) ∧
    m.dead (m.step t b) = false ∧ seen'.contains (m.key (m.step t b)) = false ∧
    m.accepts (m.step t b) = true

theorem expand_eq_none {seen : Seen} {stack : List σ} {bs : List UInt8}
    (h : m.expand s bs seen stack = none) : ∃ fresh, m.Hits s bs seen stack fresh := by
  induction bs generalizing seen stack with
  | nil => cases h
  | cons b bs ih =>
    rw [expand] at h
    split at h
    · next hold =>
      obtain ⟨fresh, tried, c, untried, seen', rfl, hx, hhit⟩ := ih h
      refine ⟨fresh, b :: tried, c, untried, seen', rfl, ?_, hhit⟩
      rw [expand, if_pos hold, hx]
    · next hnew =>
      split at h
      · next ha =>
        rw [Bool.or_eq_true, not_or, Bool.not_eq_true, Bool.not_eq_true] at hnew
        exact ⟨[], [], b, bs, seen, rfl, rfl, hnew.1, hnew.2, ha⟩
      · next hquiet =>
        obtain ⟨fresh, tried, c, untried, seen', rfl, hx, hhit⟩ := ih h
        refine ⟨fresh ++ [m.step s b], b :: tried, c, untried, seen', rfl, ?_, hhit⟩
        rw [expand, if_neg hnew, if_neg hquiet, hx, List.append_assoc, List.singleton_append]

/-- What expanding a state has put on the stack: states that are new, alive and do not accept, and
with them every state one letter further is visited or dead. -/
structure Expansion (m : Machine σ) (s : σ) (bs : List UInt8) (visited fresh : List σ) : Prop where
  nodup : (fresh ++ visited).Nodup
  step : ∀ t ∈ fresh, ∃ b ∈ bs, m.step s b = t
  alive : ∀ t ∈ fresh, m.dead t = false
  quiet : ∀ t ∈ fresh, m.accepts t = false
  covers : ∀ b ∈ bs, m.dead (m.step s b) = true ∨ m.step s b ∈ fresh ++ visited

theorem expand_eq_some (hkey : Function.Injective m.key) {seen seen' : Seen}
    {stack stack' visited : List σ} {bs : List UInt8}
    (h : m.expand s bs seen stack = some (seen', stack')) (hseen : m.Lists seen visited)
    (hnodup : visited.Nodup) :
    ∃ fresh, stack' = fresh ++ stack ∧ m.Lists seen' (fresh ++ visited) ∧
      m.Expansion s bs visited fresh := by
  induction bs generalizing seen stack visited with
  | nil =>
    simp only [expand, Option.some.injEq, Prod.mk.injEq] at h
    obtain ⟨rfl, rfl⟩ := h
    exact ⟨[], rfl, hseen, by simpa using hnodup, by simp, by simp, by simp, by simp⟩
  | cons b bs ih =>
    rw [expand] at h
    split at h
    · next hold =>
      obtain ⟨fresh, hstack, hlists, hx⟩ := ih h hseen hnodup
      refine ⟨fresh, hstack, hlists, hx.nodup, ?_, hx.alive, hx.quiet, ?_⟩
      · intro t ht
        obtain ⟨c, hc, hst⟩ := hx.step t ht
        exact ⟨c, List.mem_cons_of_mem _ hc, hst⟩
      · intro c hc
        rcases List.mem_cons.mp hc with rfl | hc
        · rw [Bool.or_eq_true, hseen] at hold
          exact hold.imp_right (List.mem_append_right _)
        · exact hx.covers c hc
    · next hnew =>
      split at h
      · cases h
      · next hquiet =>
        rw [Bool.or_eq_true, hseen, not_or] at hnew
        obtain ⟨fresh, rfl, hlists, hx⟩ :=
          ih h (hseen.insert hkey _) (List.nodup_cons.mpr ⟨hnew.2, hnodup⟩)
        refine ⟨fresh ++ [m.step s b], by simp, by simpa using hlists, by simpa using hx.nodup, ?_,
          ?_, ?_, ?_⟩
        · intro t ht
          rcases List.mem_append.mp ht with ht | ht
          · obtain ⟨c, hc, hst⟩ := hx.step t ht
            exact ⟨c, List.mem_cons_of_mem _ hc, hst⟩
          · exact ⟨b, List.mem_cons_self, (List.mem_singleton.mp ht).symm⟩
        · intro t ht
          rcases List.mem_append.mp ht with ht | ht
          · exact hx.alive t ht
          · rw [List.mem_singleton.mp ht]
            simpa using hnew.1
        · intro t ht
          rcases List.mem_append.mp ht with ht | ht
          · exact hx.quiet t ht
          · rw [List.mem_singleton.mp ht]
            simpa using hquiet
        · intro c hc
          rcases List.mem_cons.mp hc with rfl | hc
          · exact Or.inr (by simp)
          · exact (hx.covers c hc).imp_right fun h => by simpa using h

theorem Expansion.perm {order : List UInt8} {visited fresh : List σ}
    (h : m.Expansion s order visited fresh) (horder : order.Perm letters) :
    m.Expansion s letters visited fresh where
  nodup := h.nodup
  step := fun t ht => (h.step t ht).imp fun _ hb => ⟨horder.subset hb.1, hb.2⟩
  alive := h.alive
  quiet := h.quiet
  covers := fun b hb => h.covers b (horder.symm.subset hb)

/-- Where a search stands: the states visited are reached from the start, do not accept, unless the
start does, and have all that is one letter further visited, unless they still wait. -/
structure Progress (m : Machine σ) (letters : List UInt8) (s : σ) (stack visited : List σ) :
    Prop where
  nodup : visited.Nodup
  start : s ∈ visited
  pending : stack ⊆ visited
  reached : ∀ t ∈ visited, m.Reaches letters s t
  alive : ∀ t ∈ visited, t = s ∨ m.dead t = false
  quiet : ∀ t ∈ visited, t = s ∨ m.accepts t = false
  followed : ∀ t ∈ visited, t ∈ stack ∨
    ∀ b ∈ letters, m.dead (m.step t b) = true ∨ m.step t b ∈ visited

theorem Progress.init : m.Progress letters s [s] [s] where
  nodup := List.nodup_singleton s
  start := List.mem_singleton_self s
  pending := List.Subset.refl _
  reached := by simpa using Reaches.refl s
  alive := by simp
  quiet := by simp
  followed := by simp

theorem Progress.perm {stack stack' visited : List σ} (h : m.Progress letters s stack visited)
    (hp : stack.Perm stack') : m.Progress letters s stack' visited :=
  { h with
    pending := fun _ ht => h.pending (hp.symm.subset ht)
    followed := fun t ht => (h.followed t ht).imp_left (hp.subset ·) }

theorem Progress.expand {t : σ} {stack visited fresh : List σ}
    (h : m.Progress letters s (t :: stack) visited) (hx : m.Expansion t letters visited fresh) :
    m.Progress letters s (fresh ++ stack) (fresh ++ visited) where
  nodup := hx.nodup
  start := List.mem_append_right _ h.start
  pending := by
    refine List.append_subset.mpr ⟨List.subset_append_left _ _, ?_⟩
    intro u hu
    exact List.mem_append_right _ (h.pending (List.mem_cons_of_mem _ hu))
  reached := by
    intro u hu
    rcases List.mem_append.mp hu with hu | hu
    · obtain ⟨b, hb, rfl⟩ := hx.step u hu
      exact (h.reached t (h.pending List.mem_cons_self)).step hb
    · exact h.reached u hu
  alive := by
    intro u hu
    rcases List.mem_append.mp hu with hu | hu
    · exact Or.inr (hx.alive u hu)
    · exact h.alive u hu
  quiet := by
    intro u hu
    rcases List.mem_append.mp hu with hu | hu
    · exact Or.inr (hx.quiet u hu)
    · exact h.quiet u hu
  followed := by
    intro u hu
    rcases List.mem_append.mp hu with hu | hu
    · exact Or.inl (List.mem_append_left _ hu)
    · rcases h.followed u hu with hu | hu
      · rcases List.mem_cons.mp hu with rfl | hu
        · exact Or.inr hx.covers
        · exact Or.inl (List.mem_append_right _ hu)
      · exact Or.inr fun b hb => (hu b hb).imp_right (List.mem_append_right _)

theorem Progress.not_leadsAway {visited : List σ} (hsink : m.Sinks)
    (h : m.Progress letters s [] visited) : ¬ m.LeadsAway letters s := by
  have hstay : ∀ w : List UInt8, ∀ t, (m.dead t = true ∨ t ∈ visited) → (∀ b ∈ w, b ∈ letters) →
      m.dead (m.run t w) = true ∨ m.run t w ∈ visited := by
    intro w
    induction w with
    | nil => exact fun t ht _ => ht
    | cons b w ih =>
      intro t ht hw
      refine ih _ ?_ fun c hc => hw c (List.mem_cons_of_mem _ hc)
      rcases ht with hdead | hmem
      · exact Or.inl (hsink.step hdead b)
      · exact (h.followed t hmem).resolve_left List.not_mem_nil b (hw b List.mem_cons_self)
  rintro ⟨_, ⟨w, hw, rfl⟩, hne, ha⟩
  have hquiet : m.accepts (m.run s w) = false := by
    rcases hstay w s (Or.inr h.start) hw with hdead | hmem
    · exact hsink.accepts hdead
    · exact (h.quiet _ hmem).resolve_left hne
  rw [hquiet] at ha
  cases ha

def Bounded (m : Machine σ) (letters : List UInt8) (s : σ) (bound : Nat) : Prop :=
  ∀ visited : List σ, visited.Nodup →
    (∀ t ∈ visited, m.Reaches letters s t ∧ (t = s ∨ m.dead t = false)) → visited.length ≤ bound

/-- The rounds of a search in any order: one of the waiting states is taken, and the letters are
tried at it. Beside the states that wait stand all those that were put there, the latest first, and
in front the number of rounds. -/
inductive Explored (m : Machine σ) (letters : List UInt8) (s : σ) :
    Nat → Seen → List σ → List σ → Prop
  | start : Explored m letters s 0 (Std.HashSet.emptyWithCapacity.insert (m.key s)) [s] [s]
  | round {n : Nat} {seen seen' : Seen} {waiting pushed rest fresh : List σ} {t : σ}
    {order : List UInt8} (h : Explored m letters s n seen waiting pushed)
    (htake : waiting.Perm (t :: rest)) (horder : order.Perm letters)
    (hx : m.expand t order seen rest = some (seen', fresh ++ rest)) :
    Explored m letters s (n + 1) seen' (fresh ++ rest) (fresh ++ pushed)

/-- The two ways in which a search ends: no state waits any more, or the round that begins finds
one. -/
inductive Finishes (m : Machine σ) (letters : List UInt8) (s : σ) : Nat → List σ → Bool → Prop
  | drained {n : Nat} {seen : Seen} {pushed : List σ} (h : Explored m letters s n seen [] pushed) :
    Finishes m letters s n pushed false
  | found {n : Nat} {seen : Seen} {waiting pushed rest fresh : List σ} {t : σ} {order : List UInt8}
    (h : Explored m letters s n seen waiting pushed) (htake : waiting.Perm (t :: rest))
    (horder : order.Perm letters) (hhit : m.Hits t order seen rest fresh) :
    Finishes m letters s (n + 1) (fresh ++ pushed) true

section Rounds

variable (hkey : Function.Injective m.key)
include hkey

/-- What a round preserves: the table holds the states that were put to wait, these are visited in
the sense of a search, and each round has taken one of them. -/
theorem Explored.progress {n : Nat} {seen : Seen} {waiting pushed : List σ}
    (h : m.Explored letters s n seen waiting pushed) :
    m.Lists seen pushed ∧ m.Progress letters s waiting pushed ∧
    pushed.length = n + waiting.length := by
  induction h with
  | start => exact ⟨Lists.insert hkey (fun t => by simp) s, .init, rfl⟩
  | @round n _ _ _ _ rest fresh t _ _ htake horder hx ih =>
    obtain ⟨hlists, hprogress, hlength⟩ := ih
    obtain ⟨fresh', heq, hlists', hexpansion⟩ := expand_eq_some hkey hx hlists hprogress.nodup
    obtain rfl := List.append_cancel_right heq
    refine ⟨hlists', (hprogress.perm htake).expand (hexpansion.perm horder), ?_⟩
    rw [htake.length_eq] at hlength
    simp only [List.length_append, List.length_cons] at hlength ⊢
    omega

/-- Every search that ends has put no state to wait twice, and it has the same answer in any
order. -/
theorem Finishes.spec (hsink : m.Sinks) {n : Nat} {pushed : List σ} {result : Bool}
    (h : m.Finishes letters s n pushed result) :
    pushed.Nodup ∧ (result = true ↔ m.LeadsAway letters s) := by
  cases h with
  | drained h =>
    obtain ⟨-, hprogress, -⟩ := h.progress hkey
    exact ⟨hprogress.nodup, iff_of_false Bool.false_ne_true (hprogress.not_leadsAway hsink)⟩
  | @found _ _ _ _ rest _ t _ h htake horder hhit =>
    obtain ⟨hlists, hprogress, -⟩ := h.progress hkey
    obtain ⟨tried, b, untried, seen', rfl, hx, -, hnew, ha⟩ := hhit
    obtain ⟨fresh', heq, hlists', hexpansion⟩ := expand_eq_some hkey hx hlists hprogress.nodup
    obtain rfl := List.append_cancel_right heq
    have ht : m.Reaches letters s t :=
      hprogress.reached t (hprogress.pending (htake.symm.subset List.mem_cons_self))
    have hb : b ∈ letters := horder.subset (List.mem_append_right _ List.mem_cons_self)
    refine ⟨hexpansion.nodup, iff_of_true rfl ⟨_, ht.step hb, fun hs => ?_, ha⟩⟩
    -- the start was put to wait, so it is not new
    rw [(hlists' _).mpr (hs ▸ List.mem_append_right _ hprogress.start)] at hnew
    cases hnew

variable {bound : Nat} (hbound : m.Bounded letters s bound)
include hbound

/-- A search takes each state once, so it cannot go on for more rounds than there are states. -/
theorem Explored.le_bound {n : Nat} {seen : Seen} {waiting pushed : List σ}
    (h : m.Explored letters s n seen waiting pushed) : n + waiting.length ≤ bound := by
  obtain ⟨-, hprogress, hlength⟩ := h.progress hkey
  rw [← hlength]
  exact hbound pushed hprogress.nodup fun t ht => ⟨hprogress.reached t ht, hprogress.alive t ht⟩

theorem Finishes.le_bound {n : Nat} {pushed : List σ} {result : Bool}
    (h : m.Finishes letters s n pushed result) : n ≤ bound := by
  cases h with
  | drained h => exact h.le_bound hkey hbound
  | found h htake =>
    have hle := h.le_bound hkey hbound
    rw [htake.length_eq, List.length_cons] at hle
    omega

theorem search_finishes {n fuel : Nat} {seen : Seen} {stack pushed : List σ}
    (h : m.Explored letters s n seen stack pushed) (hfuel : bound = n + fuel) :
    ∃ k pushed', m.Finishes letters s k pushed' (m.search letters fuel seen stack) := by
  induction fuel generalizing n seen stack pushed with
  | zero =>
    have hle := h.le_bound hkey hbound
    obtain rfl : stack = [] := List.eq_nil_of_length_eq_zero (by omega)
    exact ⟨n, pushed, .drained h⟩
  | succ fuel ih =>
    cases stack with
    | nil => exact ⟨n, pushed, .drained h⟩
    | cons t stack =>
      rw [search]
      cases hx : m.expand t letters seen stack with
      | none =>
        obtain ⟨fresh, hhit⟩ := expand_eq_none hx
        exact ⟨n + 1, fresh ++ pushed, .found h (.refl _) (.refl _) hhit⟩
      | some r =>
        obtain ⟨seen', stack'⟩ := r
        obtain ⟨hlists, hprogress, -⟩ := h.progress hkey
        obtain ⟨fresh, rfl, -, -⟩ := expand_eq_some hkey hx hlists hprogress.nodup
        exact ih (h.round (.refl _) (.refl _) hx) (by omega)

end Rounds

variable {states : Nat} (hkey : Function.Injective m.key) (hsink : m.Sinks)
  (hbound : m.Bounded letters s (states + 1))
include hkey hbound

theorem reachesAccept_finishes (halive : m.dead s = false) :
    ∃ n pushed, m.Finishes letters s n pushed (m.reachesAccept letters states s) := by
  rw [reachesAccept, if_neg (by rw [halive]; exact Bool.false_ne_true)]
  exact search_finishes hkey hbound .start (Nat.zero_add _).symm

include hsink

theorem reachesAccept_iff_leadsAway :
    m.reachesAccept letters states s = true ↔ m.LeadsAway letters s := by
  cases halive : m.dead s with
  | false =>
    obtain ⟨n, pushed, h⟩ := reachesAccept_finishes hkey hbound halive
    exact (h.spec hkey hsink).2
  | true =>
    rw [reachesAccept, if_pos halive]
    refine iff_of_false Bool.false_ne_true ?_
    rintro ⟨_, ⟨w, -, rfl⟩, -, ha⟩
    rw [hsink.accepts (hsink.run halive w)] at ha
    cases ha

/-- The search from a state that does not accept tells whether a text that is not empty leads on to
an accepting state. -/
theorem reachesAccept_iff (hquiet : m.accepts s = false) :
    m.reachesAccept letters states s = true ↔ m.LeadsOn letters s :=
  (reachesAccept_iff_leadsAway hkey hsink hbound).trans (leadsAway_iff hquiet)

end Keypad.Automaton.Machine
