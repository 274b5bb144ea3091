import Keypad.Replay
import Keypad.Proofs.Contract
/-!
Replays beside single answers. A replay lists the answers about the beginnings of a list of symbols
up to the first one that is terminal. Nothing that matches is lost by stopping: behind a buffer that
is hopeless everything is, and behind one that cannot be extended the next symbol does not match.
-/
namespace Keypad

open Keypad.Automaton Keypad.Pattern

namespace Matcher

variable {engine : Engine} {pattern : String} {limits : Limits} {m : Matcher}

theorem full_iff (h : compile engine pattern limits = .ok m) (symbols : List Symbol) :
    (m.classify symbols).full = true ↔ Language pattern (symbols.map Symbol.byte) :=
  full_classifyBytes h (symbols.map Symbol.byte)

theorem noMatch_append (h : compile engine pattern limits = .ok m) {symbols : List Symbol}
    (hno : m.classify symbols = .noMatch) (more : List Symbol) :
    m.classify (symbols ++ more) = .noMatch := by
  obtain ⟨-, -, -, hshort⟩ := classifyBytes_iff_language h (symbols.map Symbol.byte)
  obtain ⟨-, -, -, hlong⟩ := classifyBytes_iff_language h ((symbols ++ more).map Symbol.byte)
  refine hlong.mpr ?_
  rintro ⟨w, hw⟩
  refine hshort.mp hno ⟨more.map Symbol.byte ++ w, ?_⟩
  simpa using hw

theorem not_full_of_maxMatch (h : compile engine pattern limits = .ok m) {symbols : List Symbol}
    (hmax : m.classify symbols = .maxMatch) (s : Symbol) :
    (m.classify (symbols ++ [s])).full = false := by
  obtain ⟨-, hsaturated, -, -⟩ := classifyBytes_iff_language h (symbols.map Symbol.byte)
  refine Bool.eq_false_iff.mpr fun hfull => (hsaturated.mp hmax).2 ⟨s, ?_⟩
  simpa using (full_iff h (symbols ++ [s])).mp hfull

theorem not_full_of_noMatch (h : compile engine pattern limits = .ok m) {symbols : List Symbol}
    (hno : m.classify symbols = .noMatch) (more : List Symbol) :
    (m.classify (symbols ++ more)).full = false := by
  rw [noMatch_append h hno more]
  rfl

def stepAt (m : Matcher) (symbols : List Symbol) : Step :=
  ⟨Symbol.textOf symbols, m.classify symbols⟩

/-- A replay is made of the answers about the first beginnings, each one symbol longer than the
last, up to the first terminal one. -/
theorem replayFrom_eq (m : Matcher) (pressed rest : List Symbol) :
    ∃ n ≤ rest.length,
      m.replayFrom pressed rest =
        (List.range n).map (fun i => m.stepAt (pressed ++ rest.take (i + 1))) ∧
      (∀ i, i + 1 < n → (m.classify (pressed ++ rest.take (i + 1))).terminal = false) ∧
      (n < rest.length → ∃ i, n = i + 1 ∧
        (m.classify (pressed ++ rest.take n)).terminal = true) := by
  induction rest generalizing pressed with
  | nil => exact ⟨0, Nat.le_refl 0, rfl, by simp, by simp⟩
  | cons s rest ih =>
    rw [replayFrom]
    split
    · next hterminal =>
      refine ⟨1, by simp, rfl, by simp, fun _ => ⟨0, rfl, ?_⟩⟩
      simpa using hterminal
    · next hlive =>
      obtain ⟨n, hn, heq, hopen, hstop⟩ := ih (pressed ++ [s])
      refine ⟨n + 1, by simpa using hn, ?_, fun i hi => ?_, fun hlt => ?_⟩
      · rw [heq, List.range_succ_eq_map, List.map_cons, List.map_map]
        simp [stepAt, Function.comp_def]
      · cases i with
        | zero => simpa using hlive
        | succ i => simpa using hopen i (by omega)
      · obtain ⟨i, rfl, hterminal⟩ := hstop (by simpa using hlt)
        exact ⟨i + 1, rfl, by simpa using hterminal⟩

def lastFull (steps : List Step) : Option Step := (steps.filter (·.classification.full)).getLast?

/-- Every matching beginning of the list that a longer beginning of it matches again can be extended
by a single symbol to a match. -/
def Extends (m : Matcher) (symbols : List Symbol) : Prop :=
  ∀ k, 0 < k → k ≤ symbols.length → (m.classify (symbols.take k)).full = true →
    (∃ j, k < j ∧ j ≤ symbols.length ∧ (m.classify (symbols.take j)).full = true) →
    ∃ s : Symbol, (m.classify (symbols.take k ++ [s])).full = true

theorem lastFull_range (f : Nat → Step) (n : Nat) :
    (∀ step, lastFull ((List.range n).map f) = some step →
      ∃ i < n, step = f i ∧ step.classification.full = true ∧
        ∀ j, i < j → j < n → (f j).classification.full = false) ∧
    (lastFull ((List.range n).map f) = none ↔ ∀ i < n, (f i).classification.full = false) := by
  induction n with
  | zero => simp [lastFull]
  | succ n ih =>
    obtain ⟨ihSome, ihNone⟩ := ih
    cases hfull : (f n).classification.full with
    | true =>
      have hlast : lastFull ((List.range (n + 1)).map f) = some (f n) := by
        simp [lastFull, List.range_succ, hfull]
      rw [hlast]
      refine ⟨?_, iff_of_false (by simp) fun hno => ?_⟩
      · rintro step ⟨⟩
        exact ⟨n, Nat.lt_succ_self n, rfl, hfull, fun j hj hjn => by omega⟩
      · rw [hno n (Nat.lt_succ_self n)] at hfull
        cases hfull
    | false =>
      have hlast : lastFull ((List.range (n + 1)).map f) = lastFull ((List.range n).map f) := by
        simp [lastFull, List.range_succ, hfull]
      rw [hlast]
      refine ⟨fun step hstep => ?_,
        ihNone.trans ⟨fun hno i hi => ?_, fun hno i hi => hno i (by omega)⟩⟩
      · obtain ⟨i, hi, rfl, hstepFull, hlater⟩ := ihSome step hstep
        refine ⟨i, by omega, rfl, hstepFull, fun j hij hj => ?_⟩
        rcases Nat.lt_succ_iff_lt_or_eq.mp hj with hj | rfl
        · exact hlater j hij hj
        · exact hfull
      · rcases Nat.lt_succ_iff_lt_or_eq.mp hi with hi | rfl
        · exact hno i hi
        · exact hfull

section Stops

variable {symbols : List Symbol} {n : Nat}

theorem replay_getLast? {step : Step}
    (heq : m.replay symbols = (List.range n).map fun i => m.stepAt (symbols.take (i + 1)))
    (hlast : (m.replay symbols).getLast? = some step) : step = m.stepAt (symbols.take n) := by
  cases n with
  | zero => simp [heq] at hlast
  | succ n =>
    rw [heq, List.range_succ, List.map_append, List.map_singleton, List.getLast?_concat] at hlast
    exact (Option.some.inj hlast).symm

theorem not_full_behind_stop (h : compile engine pattern limits = .ok m)
    (hextends : m.Extends symbols) {i : Nat}
    (hterminal : (m.classify (symbols.take (i + 1))).terminal = true) {j : Nat} (hij : i + 1 < j)
    (hj : j ≤ symbols.length) : (m.classify (symbols.take j)).full = false := by
  cases hc : m.classify (symbols.take (i + 1)) with
  | potentialMatch => simp [hc, Classification.terminal] at hterminal
  | isMatch => simp [hc, Classification.terminal] at hterminal
  | noMatch =>
    have hbehind := not_full_of_noMatch h hc ((symbols.take j).drop (i + 1))
    have htake : symbols.take (i + 1) = (symbols.take j).take (i + 1) := by
      rw [List.take_take, Nat.min_eq_left (by omega)]
    rwa [htake, List.take_append_drop] at hbehind
  | maxMatch =>
    refine Bool.eq_false_iff.mpr fun hfull => ?_
    have hnow : (m.classify (symbols.take (i + 1))).full = true := by rw [hc]; rfl
    obtain ⟨s, hs⟩ := hextends (i + 1) (Nat.succ_pos i) (by omega) hnow ⟨j, hij, hj, hfull⟩
    rw [not_full_of_maxMatch h hc s] at hs
    cases hs

end Stops

/-- A replay agrees with single answers. Where it stops on a hopeless buffer, all that is longer is
hopeless; where it stops on one that cannot be extended, the next beginning does not match. When
matching beginnings that come to match again can be extended by a symbol, its last matching step is
the longest matching beginning of the whole list. -/
theorem replay_agrees (h : compile engine pattern limits = .ok m) (symbols : List Symbol) :
    (∀ step, (m.replay symbols).getLast? = some step → step.classification = .noMatch →
      ∀ more, m.classify (symbols.take (m.replay symbols).length ++ more) = .noMatch) ∧
    (∀ step, (m.replay symbols).getLast? = some step → step.classification = .maxMatch →
      (m.replay symbols).length < symbols.length →
      (m.classify (symbols.take ((m.replay symbols).length + 1))).full = false) ∧
    (m.Extends symbols →
      (∀ step, lastFull (m.replay symbols) = some step →
        ∃ k, 0 < k ∧ k ≤ symbols.length ∧ step = m.stepAt (symbols.take k) ∧
          (m.classify (symbols.take k)).full = true ∧
          ∀ j, k < j → j ≤ symbols.length → (m.classify (symbols.take j)).full = false) ∧
      (lastFull (m.replay symbols) = none ↔
        ∀ k, 0 < k → k ≤ symbols.length → (m.classify (symbols.take k)).full = false)) := by
  obtain ⟨n, hn, heq, -, hstop⟩ := m.replayFrom_eq [] symbols
  simp only [List.nil_append] at heq hstop
  have heq : m.replay symbols = (List.range n).map fun i => m.stepAt (symbols.take (i + 1)) := heq
  have hlength : (m.replay symbols).length = n := by simp [heq]
  refine ⟨fun step hlast hno more => ?_, fun step hlast hmax hlt => ?_, fun hextends => ?_⟩
  · obtain rfl := replay_getLast? heq hlast
    rw [hlength]
    exact noMatch_append h hno more
  · obtain rfl := replay_getLast? heq hlast
    rw [hlength] at hlt ⊢
    rw [List.take_succ_eq_append_getElem hlt]
    exact not_full_of_maxMatch h hmax _
  · have hbehind : ∀ j, n < j → j ≤ symbols.length →
        (m.classify (symbols.take j)).full = false := by
      intro j hj hle
      obtain ⟨i, rfl, hterminal⟩ := hstop (by omega)
      exact not_full_behind_stop h hextends hterminal hj hle
    obtain ⟨hsome, hnone⟩ := lastFull_range (fun i => m.stepAt (symbols.take (i + 1))) n
    rw [heq]
    constructor
    · intro step hstep
      obtain ⟨i, hi, rfl, hfull, hlater⟩ := hsome step hstep
      refine ⟨i + 1, Nat.succ_pos i, by omega, rfl, hfull, fun j hj hle => ?_⟩
      by_cases hjn : n < j
      · exact hbehind j hjn hle
      · obtain ⟨k, rfl⟩ : ∃ k, j = k + 1 := ⟨j - 1, by omega⟩
        exact hlater k (by omega) (by omega)
    · rw [hnone]
      constructor
      · intro hno k hk hle
        by_cases hkn : n < k
        · exact hbehind k hkn hle
        · obtain ⟨i, rfl⟩ : ∃ i, k = i + 1 := ⟨k - 1, by omega⟩
          exact hno i (by omega)
      · exact fun hno i hi => hno (i + 1) (Nat.succ_pos i) (by omega)

theorem replay_choice (h : compile engine "1(?:2|34)?" limits = .ok m) :
    m.replay [.digit1, .digit3, .digit4, .digit5] =
      [⟨"1", .isMatch⟩, ⟨"13", .potentialMatch⟩, ⟨"134", .maxMatch⟩] := by
  obtain ⟨hone, hshort, hlong⟩ := classifyBytes_choice h
  have hone : m.classify [.digit1] = .isMatch := hone
  have hshort : m.classify [.digit1, .digit3] = .potentialMatch := hshort
  have hlong : m.classify [.digit1, .digit3, .digit4] = .maxMatch := hlong
  simp only [replay, replayFrom, List.nil_append, List.cons_append, hone, hshort, hlong,
    Classification.terminal, Bool.false_eq_true, if_false, if_true]
  rfl

/-- The first key matches, and so does the longest word behind it, which is two keys longer;
another word is one key longer. -/
theorem replay_agrees_choice : ∃ m : Matcher,
    compile .typical "1(?:2|34)?" ⟨none, none, false⟩ = .ok m ∧
    m.Extends [.digit1, .digit3, .digit4, .digit5] ∧
    (m.classify [.digit1, .digit3, .digit4, .digit5]).full = false ∧
    ∃ k, lastFull (m.replay [.digit1, .digit3, .digit4, .digit5]) =
        some (m.stepAt ([.digit1, .digit3, .digit4, .digit5].take k)) ∧
      ∀ j, k < j → j ≤ 4 →
        (m.classify ([.digit1, .digit3, .digit4, .digit5].take j)).full = false := by
  obtain ⟨m, hm⟩ := exists_compile_choice
  have hfull : ∀ symbols, (m.classify symbols).full = true ↔ symbols.map Symbol.byte = [0x31] ∨
      symbols.map Symbol.byte = [0x31, 0x32] ∨ symbols.map Symbol.byte = [0x31, 0x33, 0x34] :=
    fun symbols => (full_iff hm symbols).trans (language_choice _)
  have hextends : m.Extends [.digit1, .digit3, .digit4, .digit5] := by
    rintro k hk hle hword ⟨j, hkj, hj, hlonger⟩
    rw [hfull] at hword hlonger
    simp only [List.length_cons, List.length_nil] at hle hj
    -- of the beginnings only the first key and the first three keys are words
    obtain rfl : k = 1 := by
      interval_cases k
      · rfl
      · exact absurd hword (by decide)
      · obtain rfl : j = 4 := by omega
        exact absurd hlonger (by decide)
      · omega
    exact ⟨.digit2, (hfull _).mpr (by decide)⟩
  have hreplay := replay_choice hm
  obtain ⟨-, hmax, hlast⟩ := replay_agrees hm [.digit1, .digit3, .digit4, .digit5]
  have hbehind := hmax ⟨"134", .maxMatch⟩ (by rw [hreplay]; rfl) rfl (by rw [hreplay]; decide)
  rw [hreplay] at hbehind
  have hsome : lastFull (m.replay [.digit1, .digit3, .digit4, .digit5]) =
      some ⟨"134", .maxMatch⟩ := by
    rw [hreplay]
    rfl
  obtain ⟨k, -, -, hstep, -, hlater⟩ := (hlast hextends).1 _ hsome
  exact ⟨m, hm, hextends, hbehind, k, hstep ▸ hsome, hlater⟩

end Matcher

end Keypad
