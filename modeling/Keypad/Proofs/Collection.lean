import Keypad.Proofs.Agreement
import Keypad.Proofs.Trace
/-!
Two ways to collect symbols. A replay keeps the symbols and classifies each beginning of their list;
a collection lets a text grow and asks the grammar about it. Both stop behind the first terminal
answer, and they see the same answers.
-/
namespace Keypad

open Keypad.Automaton Keypad.Pattern

namespace Symbol

@[simp] theorem encodeChar_char (s : Symbol) : Text.Utf8.encodeChar s.char = [s.byte] := by
  cases s <;> decide +kernel

@[simp] theorem encode_textOf (symbols : List Symbol) :
    Text.Utf8.encode (textOf symbols) = symbols.map byte := by
  rw [Text.Utf8.encode, textOf, String.toList_ofList, List.flatMap_map, List.map_eq_flatMap]
  exact congrArg (symbols.flatMap ·) (funext encodeChar_char)

@[simp] theorem push_textOf (symbols : List Symbol) (s : Symbol) :
    (textOf symbols).push s.char = textOf (symbols ++ [s]) := by
  rw [← String.toList_inj]
  simp [textOf]

end Symbol

namespace Matcher

variable {m : Matcher} {symbols : List Symbol}

@[simp] theorem classifyText_textOf (m : Matcher) (symbols : List Symbol) :
    m.classifyText (Symbol.textOf symbols) = m.classify symbols := by
  simp [classifyText, classify]

/-- How many symbols may have been pressed when a replay stops: a terminal answer was given. -/
def Stops (m : Matcher) (symbols : List Symbol) : Set Nat :=
  {i | 0 < i ∧ i ≤ symbols.length ∧ (m.classify (symbols.take i)).terminal = true}

theorem replay_steps (m : Matcher) (symbols : List Symbol) :
    ∃ k, m.replay symbols = (List.range k).map (fun i => m.stepAt (symbols.take (i + 1))) ∧
      ((m.Stops symbols).Nonempty → IsLeast (m.Stops symbols) k) ∧
      (m.Stops symbols = ∅ → k = symbols.length) ∧
      ∀ i, 0 < i → i < k → (m.classify (symbols.take i)).terminal = false := by
  obtain ⟨k, hk, heq, hopen, hstop⟩ := replayFrom_eq m [] symbols
  simp only [List.nil_append] at heq hopen hstop
  have hbefore : ∀ i, 0 < i → i < k → (m.classify (symbols.take i)).terminal = false := by
    intro i hi hik
    obtain ⟨j, rfl⟩ : ∃ j, i = j + 1 := ⟨i - 1, by omega⟩
    exact hopen j hik
  have hleast : ∀ i ∈ m.Stops symbols, k ≤ i := by
    rintro i ⟨hi, -, hterminal⟩
    by_contra hlt
    rw [hbefore i hi (by omega)] at hterminal
    cases hterminal
  have hmem : k < symbols.length → k ∈ m.Stops symbols := by
    intro hlt
    obtain ⟨i, rfl, hterminal⟩ := hstop hlt
    exact ⟨Nat.succ_pos i, hk, hterminal⟩
  refine ⟨k, heq, fun ⟨i, hi⟩ => ⟨?_, hleast⟩, fun hnone => ?_, hbefore⟩
  · rcases Nat.lt_or_ge k symbols.length with hlt | hge
    · exact hmem hlt
    · -- the only stop left is behind the last symbol
      have hki := hleast i hi
      have hle := hi.2.1
      obtain rfl : i = k := by omega
      exact hi
  · refine Nat.le_antisymm hk (Nat.not_lt.mp fun hlt => ?_)
    have hin := hmem hlt
    rw [hnone] at hin
    exact hin

end Matcher

namespace Grammar

variable {engine : Engine} {pattern : String} {mode : Mode} {limits : Limits} {g : Grammar}

@[simp] theorem classification_find (g : Grammar) (buffer : String) :
    (g.find buffer).classification = g.matcher.classifyText buffer := by
  unfold find
  cases g.matcher.classifyText buffer <;> rfl

def stepOf (seen : String × Outcome) : Step := ⟨seen.1, seen.2.classification⟩

theorem collectFrom_textOf (g : Grammar) (pressed rest : List Symbol) :
    (g.collectFrom (Symbol.textOf pressed) (rest.map Symbol.char)).map stepOf =
      g.matcher.replayFrom pressed rest := by
  induction rest generalizing pressed with
  | nil => rfl
  | cons s rest ih =>
    rw [List.map_cons, collectFrom, Matcher.replayFrom, Symbol.push_textOf, classification_find,
      Matcher.classifyText_textOf]
    have hstep : stepOf (Symbol.textOf (pressed ++ [s]), g.find (Symbol.textOf (pressed ++ [s]))) =
        ⟨Symbol.textOf (pressed ++ [s]), g.matcher.classify (pressed ++ [s])⟩ := by
      rw [stepOf, classification_find, Matcher.classifyText_textOf]
    split
    · rw [List.map_singleton, hstep]
    · rw [List.map_cons, hstep, ih]

/-- Collecting the characters of symbols shows the buffers and the answers that replaying the
symbols shows: one step for each symbol up to the first with a terminal answer, or for all of
them. -/
theorem collect_agrees (h : compile engine pattern mode limits = .ok g) (symbols : List Symbol) :
    Matcher.compile engine pattern limits = .ok g.matcher ∧
      (g.collect (symbols.map Symbol.char)).map stepOf = g.matcher.replay symbols ∧
      ∃ k, g.matcher.replay symbols = (List.range k).map (fun i =>
          ⟨Symbol.textOf (symbols.take (i + 1)), g.matcher.classify (symbols.take (i + 1))⟩) ∧
        ((g.matcher.Stops symbols).Nonempty → IsLeast (g.matcher.Stops symbols) k) ∧
        (g.matcher.Stops symbols = ∅ → k = symbols.length) ∧
        ∀ i, 0 < i → i < k → (g.matcher.classify (symbols.take i)).terminal = false :=
  ⟨(compile_eq_ok h).1, collectFrom_textOf g [] symbols, Matcher.replay_steps g.matcher symbols⟩

/-- Collecting four keys of which three make the longest word stops behind the third. -/
theorem collect_agrees_choice : ∃ g,
    compile .typical "1(?:2|34)?" .dtmf ⟨none, none, false⟩ = .ok g ∧
    (g.collect ['1', '3', '4', '5']).map stepOf =
      [⟨"1", .isMatch⟩, ⟨"13", .potentialMatch⟩, ⟨"134", .maxMatch⟩] := by
  obtain ⟨g, hg, -⟩ : ∃ g, compile .typical "1(?:2|34)?" .dtmf ⟨none, none, false⟩ = .ok g ∧
      g.matcher.form = _ ∧ g.tags = _ :=
    exists_compile_ok rfl rfl Matcher.parse_choice (by decide) rfl parse_anchoredText_choice
      (by decide +kernel)
  obtain ⟨hm, hsame, -⟩ := collect_agrees hg [.digit1, .digit3, .digit4, .digit5]
  exact ⟨g, hg, hsame.trans (Matcher.replay_choice hm)⟩

end Grammar

end Keypad
