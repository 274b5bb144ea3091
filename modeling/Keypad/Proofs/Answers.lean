import Keypad.Matcher
import Keypad.Proofs.Recognition
import Keypad.Proofs.Survey
/-!
What the four answers about a buffer say. The states behind a buffer are those of the program of the
form, so each answer is a statement about the language of the form: whether the buffer is in it,
whether a symbol leads on in it, whether anything does.
-/
namespace Keypad.Automaton.Program

variable {p : Program} {engine : Engine} {limits : Limits} {tally : Tally}

theorem stateAfter_append_all (text w : List UInt8) :
    p.stateAfter (text ++ w) = w.foldl p.step (p.stateAfter text) := by
  simp [stateAfter]

theorem machine_run (s : Subset) (w : List UInt8) : p.machine.run s w = w.foldl p.step s := rfl

theorem mem_rows_of_letters {rows : List Row} (hstarts : ∀ r ∈ p.starts, r.isDead = true ∨ r ∈ rows)
    (hrows : ∀ r ∈ rows, ∀ t ∈ p.successors p.letters r, t.isDead = true ∨ t ∈ rows)
    {w : List UInt8} (hw : ∀ b ∈ w, b ∈ p.letters) :
    (p.stateAfter w).dead = true ∨ p.stateAfter w ∈ rows.map (·.subset) := by
  induction w using List.reverseRecOn with
  | nil =>
    have hstart : (⟨false, p.start .none⟩ : Row) ∈ p.starts := by simp [starts]
    exact (hstarts _ hstart).imp Row.isDead_of_subset fun h => List.mem_map.mpr ⟨_, h, rfl⟩
  | append_singleton w b ih =>
    rw [stateAfter_append]
    rcases ih fun c hc => hw c (List.mem_append_left _ hc) with hdead | hmem
    · exact Or.inl (dead_step hdead b)
    · obtain ⟨r, hr, hsub⟩ := List.mem_map.mp hmem
      obtain ⟨t, ht, hstep⟩ := step_mem_successors (hw b (by simp)) r
      rw [← hsub, ← hstep]
      exact (hrows r hr t ht).imp Row.isDead_of_subset fun h => List.mem_map.mpr ⟨t, h, rfl⟩

theorem bounded_stateAfter (h : p.survey engine limits = .ok tally) (text : List UInt8) :
    p.machine.Bounded p.letters (p.stateAfter text) (tally.states + 1) := by
  obtain ⟨rows, hlength, hstarts, hrows⟩ := exists_rows_of_survey h
  obtain ⟨v, hv, -, hsame⟩ := exists_run_letters (p := p) (.refl (p.start .none)) text
  have hstep : ∀ b, p.step (p.stateAfter text) b = p.step (p.stateAfter v) b :=
    step_eq_of_sameState hsame
  intro visited hnodup hvisited
  have hsub : visited ⊆ p.stateAfter text :: rows.map (·.subset) := by
    intro t ht
    obtain ⟨⟨w, hw, rfl⟩, halive⟩ := hvisited t ht
    cases w with
    | nil => exact List.mem_cons_self
    | cons b w =>
      -- behind one letter the state is the very state behind letters only
      have heq : p.machine.run (p.stateAfter text) (b :: w) = p.stateAfter (v ++ b :: w) := by
        rw [machine_run, stateAfter_append_all, List.foldl_cons, List.foldl_cons, hstep]
      have hletters : ∀ c ∈ v ++ b :: w, c ∈ p.letters := by
        intro c hc
        rcases List.mem_append.mp hc with hc | hc
        · exact hv c hc
        · exact hw c hc
      rcases halive with hstart | halive
      · rw [hstart]
        exact List.mem_cons_self
      · rw [heq] at halive ⊢
        refine List.mem_cons_of_mem _ ((mem_rows_of_letters hstarts hrows hletters).resolve_left ?_)
        exact ne_true_of_eq_false halive
  have hle := (List.subperm_of_subset hnodup hsub).length_le
  simpa [hlength] using hle

end Keypad.Automaton.Program

namespace Keypad

open Keypad.Automaton Keypad.Pattern

namespace Matcher

variable {m : Matcher} {bytes : List UInt8}

structure Built (m : Matcher) : Prop where
  program : m.program = Program.ofForm m.form
  letters : m.letters = m.program.letters
  states : ∃ engine limits tally,
    m.program.survey engine limits = .ok tally ∧ m.states = tally.states
  ascii : m.form.looks.any Look.isUnicode = false

theorem ofForm_eq_ok {engine : Engine} {pattern : String} {form : Form} {limits : Limits} :
    ofForm engine pattern form limits = .ok m ↔
    codeSize form ≤ programLimit ∧ form.looks.any Look.isUnicode = false ∧
      ∃ tally, (Program.ofForm form).survey engine limits = .ok tally ∧
        m = ⟨pattern, form, Program.ofForm form, (Program.ofForm form).letters, tally.states,
          limits.minimize⟩ := by
  rw [ofForm]
  split
  · next hlong => simp [Nat.not_le.mpr hlong]
  split
  · next hlooks => simp [hlooks]
  next hlong hlooks =>
  rw [and_iff_right (Nat.not_lt.mp hlong), and_iff_right (Bool.eq_false_iff.mpr hlooks)]
  dsimp only
  cases (Program.ofForm form).survey engine limits with
  | error e => simp
  | ok tally => simp [eq_comm]

theorem readFrom_eq_some {s t : Subset} (h : m.readFrom s bytes = some t) :
    bytes.foldl m.program.step s = t := by
  induction bytes generalizing s with
  | nil => exact Option.some.inj h
  | cons b bytes ih =>
    rw [readFrom] at h
    split at h
    · cases h
    · exact ih h

theorem readFrom_eq_none {s : Subset} (h : m.readFrom s bytes = none) :
    (bytes.foldl m.program.step s).dead = true := by
  induction bytes generalizing s with
  | nil => cases h
  | cons b bytes ih =>
    rw [readFrom] at h
    split at h
    · next hdead => exact m.program.machine_sinks.run hdead bytes
    · exact ih h

namespace Built

variable (hm : m.Built) (hregular : m.form.Regular)
include hm hregular

theorem accepts_iff (text : List UInt8) :
    m.program.accepts (m.program.stateAfter text) = true ↔ m.form.Language text := by
  rw [hm.program]
  exact Program.accepts_stateAfter_ofForm hregular

theorem extendable_iff : m.extendable (m.program.stateAfter bytes) = true ↔
    ∃ symbol : Symbol, m.form.Language (bytes ++ [symbol.byte]) := by
  have hstep : ∀ symbol : Symbol,
      (!(m.program.step (m.program.stateAfter bytes) symbol.byte).dead &&
        m.program.accepts (m.program.step (m.program.stateAfter bytes) symbol.byte)) = true ↔
      m.form.Language (bytes ++ [symbol.byte]) := by
    intro symbol
    rw [← hm.accepts_iff hregular, Program.stateAfter_append, Bool.and_eq_true, Bool.not_eq_true']
    constructor
    · exact And.right
    · intro ha
      refine ⟨Bool.eq_false_iff.mpr fun hdead => ?_, ha⟩
      rw [Program.accepts_of_dead hdead] at ha
      cases ha
  rw [extendable, List.any_eq_true]
  constructor
  · rintro ⟨symbol, -, h⟩
    exact ⟨symbol, (hstep symbol).mp h⟩
  · rintro ⟨symbol, h⟩
    exact ⟨symbol, symbol.mem_all, (hstep symbol).mpr h⟩

theorem reachesAccept_iff (hquiet : ¬ m.form.Language bytes) :
    m.machine.reachesAccept m.letters m.states (m.program.stateAfter bytes) = true ↔
      ∃ w, w ≠ [] ∧ m.form.Language (bytes ++ w) := by
  obtain ⟨engine, limits, tally, hsurvey, hstates⟩ := hm.states
  have hfalse : m.program.accepts (m.program.stateAfter bytes) = false :=
    Bool.eq_false_iff.mpr fun h => hquiet ((hm.accepts_iff hregular bytes).mp h)
  have hsearch := Machine.reachesAccept_iff m.program.machine_key_injective
    m.program.machine_sinks (Program.bounded_stateAfter hsurvey bytes) hfalse
  rw [hm.letters, hstates, show m.machine = m.program.machine from rfl, hsearch,
    Program.leadsOn_iff]
  refine exists_congr fun w => and_congr_right fun _ => ?_
  rw [← Program.stateAfter_append_all, hm.accepts_iff hregular]

theorem not_language_of_dead (hdead : (m.program.stateAfter bytes).dead = true) :
    ¬ ∃ w, m.form.Language (bytes ++ w) := by
  rintro ⟨w, hw⟩
  have hsink : (m.program.stateAfter (bytes ++ w)).dead = true := by
    rw [Program.stateAfter_append_all]
    exact m.program.machine_sinks.run hdead w
  rw [← hm.accepts_iff hregular, Program.accepts_of_dead hsink] at hw
  cases hw

/-- Each answer is given in just one case, and each case has its answer. -/
theorem classifyBytes_iff :
    (m.classifyBytes bytes = .isMatch ↔
      m.form.Language bytes ∧ ∃ symbol : Symbol, m.form.Language (bytes ++ [symbol.byte])) ∧
    (m.classifyBytes bytes = .maxMatch ↔
      m.form.Language bytes ∧ ¬ ∃ symbol : Symbol, m.form.Language (bytes ++ [symbol.byte])) ∧
    (m.classifyBytes bytes = .potentialMatch ↔
      ¬ m.form.Language bytes ∧ ∃ w, w ≠ [] ∧ m.form.Language (bytes ++ w)) ∧
    (m.classifyBytes bytes = .noMatch ↔ ¬ ∃ w, m.form.Language (bytes ++ w)) := by
  have hempty : m.form.Language bytes → ∃ w, m.form.Language (bytes ++ w) := fun h =>
    ⟨[], by simpa using h⟩
  have hnonempty : (∃ w, w ≠ [] ∧ m.form.Language (bytes ++ w)) →
      ∃ w, m.form.Language (bytes ++ w) :=
    fun ⟨w, _, hw⟩ => ⟨w, hw⟩
  rw [classifyBytes]
  cases hread : m.readFrom m.start bytes with
  | none =>
    have hdead : (m.program.stateAfter bytes).dead = true := readFrom_eq_none hread
    have hno := hm.not_language_of_dead hregular hdead
    dsimp only
    have hfull := mt hempty hno
    have hmore := mt hnonempty hno
    simp [hno, hfull, hmore]
  | some s =>
    obtain rfl : m.program.stateAfter bytes = s := readFrom_eq_some hread
    have haccepts : m.machine.accepts (m.program.stateAfter bytes) = true ↔ m.form.Language bytes :=
      hm.accepts_iff hregular bytes
    dsimp only
    by_cases hfull : m.form.Language bytes
    · have hsome := hempty hfull
      have hextend : m.extendable (m.program.stateAfter bytes) = true ↔
          ∃ symbol : Symbol, m.form.Language (bytes ++ [symbol.byte]) := hm.extendable_iff hregular
      rw [if_pos (haccepts.mpr hfull)]
      by_cases hlonger : ∃ symbol : Symbol, m.form.Language (bytes ++ [symbol.byte])
      · rw [if_pos (hextend.mpr hlonger)]
        simp [hfull, hlonger, hsome]
      · rw [if_neg (mt hextend.mp hlonger)]
        simp [hfull, hlonger, hsome]
    · have hreach := hm.reachesAccept_iff hregular hfull
      rw [if_neg (mt haccepts.mp hfull)]
      by_cases hmore : ∃ w, w ≠ [] ∧ m.form.Language (bytes ++ w)
      · have hsome := hnonempty hmore
        rw [if_pos (hreach.mpr hmore)]
        simp [hfull, hmore, hsome]
      · have hno : ¬ ∃ w, m.form.Language (bytes ++ w) := by
          rintro ⟨w, hw⟩
          by_cases hw' : w = []
          · exact hfull (by simpa [hw'] using hw)
          · exact hmore ⟨w, hw', hw⟩
        rw [if_neg (mt hreach.mp hmore)]
        simp [hfull, hmore, hno]

end Built

end Matcher

end Keypad
