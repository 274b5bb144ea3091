import Keypad.Proofs.Contract
/-!
The search of a machine as a whole. Whichever of the waiting states is followed next, whichever byte
stands for the bytes of its class and in whichever order these are tried, the search ends after at
most one round for each state, puts no state to wait twice and has one answer: some text leads from
the start to another state, which accepts.
-/
namespace Keypad.Automaton

namespace Machine

variable {σ : Type} {m : Machine σ} {letters : List UInt8} {s : σ}

/-- Each byte leads where one of the letters leads, from every state. -/
def Represents (m : Machine σ) (letters : List UInt8) : Prop :=
  ∀ b, ∃ a ∈ letters, ∀ t, m.step t a = m.step t b

theorem Represents.reaches_iff (h : m.Represents letters) {t : σ} :
    m.Reaches letters s t ↔ ∃ w, m.run s w = t := by
  refine ⟨fun ⟨w, _, hw⟩ => ⟨w, hw⟩, ?_⟩
  rintro ⟨w, rfl⟩
  induction w generalizing s with
  | nil => exact .refl s
  | cons b w ih =>
    obtain ⟨a, ha, hab⟩ := h b
    obtain ⟨v, hv, hrun⟩ := ih (s := m.step s b)
    refine ⟨a :: v, List.forall_mem_cons.mpr ⟨ha, hv⟩, ?_⟩
    rw [run, List.foldl_cons, hab]
    exact hrun

theorem Represents.leadsAway_iff (h : m.Represents letters) :
    m.LeadsAway letters s ↔ ∃ w, m.run s w ≠ s ∧ m.accepts (m.run s w) = true := by
  simp only [LeadsAway, h.reaches_iff]
  exact ⟨fun ⟨_, ⟨w, rfl⟩, ht⟩ => ⟨w, ht⟩, fun ⟨w, hw⟩ => ⟨_, ⟨w, rfl⟩, hw⟩⟩

theorem Represents.bounded {others : List UInt8} {bound : Nat} (h : m.Represents letters)
    (ho : m.Represents others) (hbound : m.Bounded letters s bound) : m.Bounded others s bound := by
  intro visited hnodup hvisited
  exact hbound visited hnodup fun t ht =>
    ⟨h.reaches_iff.mpr (ho.reaches_iff.mp (hvisited t ht).1), (hvisited t ht).2⟩

/-- As long as a state waits the search goes on or ends, whichever state is taken and in whichever
order the letters are tried. -/
theorem Explored.goes_on (hkey : Function.Injective m.key) {n : Nat} {seen : Seen}
    {waiting pushed rest : List σ} {t : σ} {order : List UInt8}
    (h : m.Explored letters s n seen waiting pushed) (htake : waiting.Perm (t :: rest))
    (horder : order.Perm letters) :
    (∃ seen' fresh, m.Explored letters s (n + 1) seen' (fresh ++ rest) (fresh ++ pushed)) ∨
      ∃ fresh, m.Finishes letters s (n + 1) (fresh ++ pushed) true := by
  cases hx : m.expand t order seen rest with
  | none =>
    obtain ⟨fresh, hhit⟩ := expand_eq_none hx
    exact .inr ⟨fresh, .found h htake horder hhit⟩
  | some r =>
    obtain ⟨seen', stack⟩ := r
    obtain ⟨hlists, hprogress, -⟩ := h.progress hkey
    obtain ⟨fresh, rfl, -⟩ := expand_eq_some hkey hx hlists hprogress.nodup
    exact .inl ⟨seen', fresh, h.round htake horder hx⟩

end Machine

end Keypad.Automaton

namespace Keypad

open Keypad.Automaton Keypad.Pattern

/-- In the program of a pattern without look-arounds a state holds nothing of the bytes that were
read, so bytes that are treated alike lead to one state. -/
theorem Automaton.Program.machine_represents {form : Form} (hlooks : form.looks = []) :
    (Program.ofForm form).machine.Represents (Program.ofForm form).letters := by
  intro b
  obtain ⟨a, ha, hab⟩ := (Program.ofForm form).exists_sameByte_letter b
  have hread : (Program.ofForm form).read? a = (Program.ofForm form).read? b := funext hab.read
  have hplain : (Program.ofForm form).isLook = fun _ => false := by
    funext pc
    unfold Program.isLook
    split
    · next l next hl =>
      exact absurd (hlooks ▸ Program.mem_looks_of_program ⟨pc, next, hl⟩) List.not_mem_nil
    · rfl
  refine ⟨a, ha, fun s => ?_⟩
  show (Program.ofForm form).step s a = (Program.ofForm form).step s b
  simp [Program.step, Program.subsetAt, Program.resolved, hplain, hread]

theorem Matcher.Built.searchable {m : Matcher} (hm : m.Built) (hlooks : m.form.looks = [])
    (text : List UInt8) :
    Function.Injective m.machine.key ∧ m.machine.Sinks ∧ m.machine.Represents m.letters ∧
      m.machine.Bounded m.letters (m.machine.run m.start text) (m.states + 1) := by
  obtain ⟨hprogram, hletters, ⟨engine, limits, tally, hsurvey, hstates⟩, -⟩ := hm
  refine ⟨m.program.machine_key_injective, m.program.machine_sinks, ?_, ?_⟩
  · rw [hletters, show m.machine = m.program.machine from rfl, hprogram]
    exact Program.machine_represents hlooks
  · rw [hletters, hstates]
    exact Program.bounded_stateAfter hsurvey text

namespace Automaton.Machine

variable {σ : Type} {m : Machine σ} {letters : List UInt8} {s : σ}

/-- What the search finds from a state and how it gets there. The states are told apart by their
keys, and what is reached from the start and is not dead are no more states than the search is told
of. -/
theorem search_any_order (hkey : Function.Injective m.key) (hsink : m.Sinks)
    (hletters : m.Represents letters) {states : Nat} (hbound : m.Bounded letters s (states + 1)) :
    (m.reachesAccept letters states s = true ↔ ∃ w, m.run s w ≠ s ∧ m.accepts (m.run s w) = true) ∧
    (m.accepts s = false →
      (m.reachesAccept letters states s = true ↔ ∃ w, w ≠ [] ∧ m.accepts (m.run s w) = true)) ∧
    (m.dead s = false → ∃ n pushed,
      m.Finishes letters s n pushed (m.reachesAccept letters states s)) ∧
    ∀ others, m.Represents others →
      m.reachesAccept others states s = m.reachesAccept letters states s ∧
      (∀ n seen waiting pushed, m.Explored others s n seen waiting pushed →
        n + waiting.length ≤ states + 1 ∧ pushed.Nodup ∧
        ∀ t rest (order : List UInt8), waiting.Perm (t :: rest) → order.Perm others →
          (∃ seen' fresh, m.Explored others s (n + 1) seen' (fresh ++ rest) (fresh ++ pushed)) ∨
            ∃ fresh, m.Finishes others s (n + 1) (fresh ++ pushed) true) ∧
      ∀ n pushed result, m.Finishes others s n pushed result →
        n ≤ states + 1 ∧ pushed.Nodup ∧ result = m.reachesAccept letters states s := by
  have hverdict : ∀ {others}, m.Represents others →
      (m.reachesAccept others states s = true ↔
        ∃ w, m.run s w ≠ s ∧ m.accepts (m.run s w) = true) :=
    fun ho => (reachesAccept_iff_leadsAway hkey hsink
      (hletters.bounded ho hbound)).trans ho.leadsAway_iff
  refine ⟨hverdict hletters, fun hquiet => ?_, reachesAccept_finishes hkey hbound,
    fun others ho => ⟨?_, ?_, ?_⟩⟩
  · rw [hverdict hletters]
    refine exists_congr fun w =>
      and_congr_left fun ha => ⟨fun hne hw => hne (by rw [hw]; rfl), fun _ hrun => ?_⟩
    rw [hrun, hquiet] at ha
    cases ha
  · rw [Bool.eq_iff_iff, hverdict ho, hverdict hletters]
  · intro n seen waiting pushed h
    exact ⟨h.le_bound hkey (hletters.bounded ho hbound), (h.progress hkey).2.1.nodup,
      fun t rest order htake horder => h.goes_on hkey htake horder⟩
  · intro n pushed result h
    obtain ⟨hnodup, hresult⟩ := h.spec hkey hsink
    refine ⟨h.le_bound hkey (hletters.bounded ho hbound), hnodup, ?_⟩
    rw [Bool.eq_iff_iff, hresult, ho.leadsAway_iff, hverdict hletters]

/-- Behind its first key the pattern accepts, and one way on leads through a state that does not. -/
theorem search_any_order_choice : ∃ m : Matcher,
    Matcher.compile .typical "1(?:2|34)?" ⟨none, none, false⟩ = .ok m ∧
    m.machine.accepts (m.machine.run m.start [0x31]) = true ∧
    m.machine.reachesAccept m.letters m.states (m.machine.run m.start [0x31]) = true ∧
    m.machine.reachesAccept m.letters.reverse m.states (m.machine.run m.start [0x31, 0x33]) =
      true := by
  obtain ⟨m, hm, hmform⟩ : ∃ m, Matcher.compile .typical "1(?:2|34)?" ⟨none, none, false⟩ = .ok m ∧
      m.form = _ :=
    Matcher.exists_compile_ok rfl rfl Matcher.parse_choice (by decide) rfl
  have hbuilt := (Matcher.built_of_compile hm).1
  have hplain : m.form.looks = [] := by rw [hmform]; rfl
  obtain ⟨hkey, hsink, hletters, hbound⟩ := hbuilt.searchable hplain [0x31]
  obtain ⟨-, -, -, hboundBehind⟩ := hbuilt.searchable hplain [0x31, 0x33]
  have hreverse : m.machine.Represents m.letters.reverse := fun b =>
    (hletters b).imp fun _ h => ⟨List.mem_reverse.mpr h.1, h.2⟩
  refine ⟨m, hm, ?_, (search_any_order hkey hsink hletters hbound).1.mpr ⟨[0x32], ?_⟩,
    ((search_any_order hkey hsink hletters hboundBehind).2.2.2 _ hreverse).1.trans
      ((search_any_order hkey hsink hletters hboundBehind).1.mpr ⟨[0x34], ?_⟩)⟩
  all_goals
    simp only [Matcher.machine, Matcher.start, hbuilt.program, hmform]
    decide +kernel

theorem not_leadsAway_of_loop (hsink : m.Sinks)
    (hloop : ∀ b ∈ letters, m.step s b = s ∨ m.dead (m.step s b) = true) :
    ¬ m.LeadsAway letters s := by
  rintro ⟨t, ⟨w, hw, rfl⟩, hne, ha⟩
  induction w with
  | nil => exact hne rfl
  | cons b w ih =>
    obtain ⟨hb, hw⟩ := List.forall_mem_cons.mp hw
    rw [run, List.foldl_cons] at hne ha
    rcases hloop b hb with hback | hdead
    · rw [hback] at hne ha
      exact ih hw hne ha
    · have hno := hsink.accepts (hsink.run hdead w)
      rw [run, ha] at hno
      cases hno

/-- The state at which a search starts is never discovered. Behind its first key the pattern `1*`
accepts, and every further key leads back to the same state; so a text that is not empty leads on to
a match, and the search finds none. -/
theorem start_not_discovered :
    ∃ m : Matcher, Matcher.compile .typical "1*" ⟨none, none, false⟩ = .ok m ∧
    Function.Injective m.machine.key ∧ m.machine.Sinks ∧ m.machine.Represents m.letters ∧
    m.machine.Bounded m.letters (m.machine.run m.start [0x31]) (m.states + 1) ∧
    ¬ (m.machine.reachesAccept m.letters m.states (m.machine.run m.start [0x31]) = true ↔
      ∃ w, w ≠ [] ∧ m.machine.accepts (m.machine.run (m.machine.run m.start [0x31]) w) = true) := by
  have hform : Form.parse false "1*" = .ok (.iterate 0 none true (.literal [0x31])) := by
    decide +kernel
  obtain ⟨m, hm, hmform⟩ : ∃ m, Matcher.compile .typical "1*" ⟨none, none, false⟩ = .ok m ∧
      m.form = .iterate 0 none true (.literal [0x31]) :=
    Matcher.exists_compile_ok rfl rfl hform (by decide) rfl
  have hbuilt := (Matcher.built_of_compile hm).1
  obtain ⟨hkey, hsink, hletters, hbound⟩ := hbuilt.searchable (by rw [hmform]; rfl) [0x31]
  refine ⟨m, hm, hkey, hsink, hletters, hbound, ?_⟩
  rw [reachesAccept_iff_leadsAway hkey hsink hbound]
  -- every letter leads from the state to itself or to a dead state
  have hloop : ∀ b ∈ m.letters,
      m.machine.step (m.machine.run m.start [0x31]) b = m.machine.run m.start [0x31] ∨
      m.machine.dead (m.machine.step (m.machine.run m.start [0x31]) b) = true := by
    simp only [Matcher.machine, Matcher.start, hbuilt.letters, hbuilt.program, hmform]
    decide +kernel
  have hone : m.machine.accepts (m.machine.run (m.machine.run m.start [0x31]) [0x31]) = true := by
    simp only [Matcher.machine, Matcher.start, hbuilt.program, hmform]
    decide +kernel
  exact fun hiff => not_leadsAway_of_loop hsink hloop
    (hiff.mpr ⟨[0x31], List.cons_ne_nil _ _, hone⟩)

end Automaton.Machine

end Keypad
