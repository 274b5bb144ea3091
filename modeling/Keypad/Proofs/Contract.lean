import Keypad.Automaton.Typical
import Keypad.Proofs.Answers
import Keypad.Proofs.Reading
/-!
The contract of a compiled pattern: its answer about a buffer is decided by the language of the
pattern as it is written. Without limits every pattern that can be read compiles, unless it is too
long or asks for Unicode word edges.
-/
namespace Keypad

open Keypad.Automaton Keypad.Pattern

namespace Automaton

open Survey

variable {engine : Engine} {limits : Limits} (hsize : limits.size = none)
  (hwork : limits.determinize = none)
include hsize hwork

theorem exists_visitAll_ok (p : Program) (stride : Nat) (s : Survey) (rows : List Row) :
    ∃ s', visitAll engine p limits stride s rows = .ok s' := by
  induction rows generalizing s with
  | nil => exact ⟨s, rfl⟩
  | cons r rows ih =>
    have hvisit : ∃ s', s.visit engine p limits stride r = .ok s' := by
      unfold visit
      split
      · exact ⟨s, rfl⟩
      · simp [Engine.broken?, hsize, hwork, Limits.broken?]
    obtain ⟨s', hs'⟩ := hvisit
    obtain ⟨t, ht⟩ := ih s'
    exact ⟨t, visitAll_cons_eq_ok.mpr ⟨s', hs', ht⟩⟩

theorem Program.exists_follow_ok (p : Program) (letters : List UInt8) (stride fuel : Nat)
    (s : Survey) :
    ∃ s', p.follow engine limits letters stride fuel s = .ok s' := by
  induction fuel generalizing s with
  | zero => exact ⟨s, rfl⟩
  | succ fuel ih =>
    cases hpending : s.pending with
    | nil => exact ⟨s, follow_of_done hpending _⟩
    | cons r rest =>
      obtain ⟨t, ht⟩ := exists_visitAll_ok hsize hwork p stride { s with pending := rest }
        (p.successors letters r)
      obtain ⟨s', hs'⟩ := ih t
      exact ⟨s', (follow_succ_eq_ok hpending).mpr ⟨t, ht, hs'⟩⟩

theorem Program.exists_survey_ok (p : Program) : ∃ tally, p.survey engine limits = .ok tally := by
  obtain ⟨s, hs⟩ := exists_visitAll_ok hsize hwork p (stride p.letters) Survey.empty p.starts
  obtain ⟨t, ht⟩ :=
    p.exists_follow_ok hsize hwork p.letters (stride p.letters) (p.surveyBound limits) s
  exact ⟨t.tally, survey_eq_ok.mpr ⟨s, t, hs, ht, rfl⟩⟩

end Automaton

namespace Matcher

variable {engine : Engine} {pattern : String} {limits : Limits} {m : Matcher}

theorem compile_eq_ok_iff : compile engine pattern limits = .ok m ↔
    ∃ form, Form.parse false pattern = .ok form ∧ codeSize form ≤ programLimit ∧
      form.looks.any Look.isUnicode = false ∧
      ∃ tally, (Program.ofForm form).survey engine limits = .ok tally ∧
        m = ⟨pattern, form, Program.ofForm form, (Program.ofForm form).letters, tally.states,
          limits.minimize⟩ := by
  have hcompile : compile engine pattern limits = .ok m ↔
      compile? engine pattern limits = .ok m := by
    rw [compile]
    cases compile? engine pattern limits <;> simp
  rw [hcompile, compile?]
  cases Form.parse false pattern with
  | error e => simp
  | ok form => simpa using ofForm_eq_ok

theorem exists_compile_ok (hsize : limits.size = none) (hwork : limits.determinize = none)
    {form : Form} (hform : Form.parse false pattern = .ok form)
    (hlength : codeSize form ≤ programLimit) (hlooks : form.looks.any Look.isUnicode = false) :
    ∃ m, compile engine pattern limits = .ok m ∧ m.form = form := by
  obtain ⟨tally, htally⟩ := (Program.ofForm form).exists_survey_ok hsize hwork
  exact ⟨_, compile_eq_ok_iff.mpr ⟨form, hform, hlength, hlooks, tally, htally, rfl⟩, rfl⟩

theorem built_of_compile (h : compile engine pattern limits = .ok m) :
    m.Built ∧ m.form.Sound ∧ Form.parse false pattern = .ok m.form ∧
      ∀ text, m.form.Language text ↔ Pattern.Language pattern text := by
  obtain ⟨form, hform, -, hlooks, tally, htally, rfl⟩ := compile_eq_ok_iff.mp h
  obtain ⟨hsound, hlanguage⟩ := Form.language_of_parse hform
  exact ⟨⟨rfl, rfl, ⟨engine, limits, tally, htally, rfl⟩, hlooks⟩, hsound, hform, hlanguage⟩

theorem exists_parse_of_compile (h : compile engine pattern limits = .ok m) :
    ∃ e, Expr.parse pattern = .ok e := by
  obtain ⟨-, -, hform, -⟩ := built_of_compile h
  obtain ⟨e, -, he, -⟩ := Form.parse_eq_ok.mp hform
  exact ⟨e, he⟩

theorem classifyBytes_iff_language (h : compile engine pattern limits = .ok m)
    (bytes : List UInt8) :
    (m.classifyBytes bytes = .isMatch ↔
      Language pattern bytes ∧ ∃ symbol : Symbol, Language pattern (bytes ++ [symbol.byte])) ∧
    (m.classifyBytes bytes = .maxMatch ↔
      Language pattern bytes ∧ ¬ ∃ symbol : Symbol, Language pattern (bytes ++ [symbol.byte])) ∧
    (m.classifyBytes bytes = .potentialMatch ↔
      ¬ Language pattern bytes ∧ ∃ w, w ≠ [] ∧ Language pattern (bytes ++ w)) ∧
    (m.classifyBytes bytes = .noMatch ↔ ¬ ∃ w, Language pattern (bytes ++ w)) := by
  obtain ⟨hbuilt, hsound, -, hlanguage⟩ := built_of_compile h
  simpa only [hlanguage] using hbuilt.classifyBytes_iff hsound.regular

theorem classifyBytes_congr {engine' : Engine} {pattern' : String} {limits' : Limits}
    {m' : Matcher} (h : compile engine pattern limits = .ok m)
    (h' : compile engine' pattern' limits' = .ok m')
    (hlanguage : ∀ text, Language pattern' text ↔ Language pattern text)
    (bytes : List UInt8) : m'.classifyBytes bytes = m.classifyBytes bytes := by
  obtain ⟨hmatch, hmax, hpotential, hno⟩ := classifyBytes_iff_language h bytes
  have hanswers := classifyBytes_iff_language h' bytes
  simp only [hlanguage] at hanswers
  obtain ⟨hmatch', hmax', hpotential', hno'⟩ := hanswers
  cases hc : m.classifyBytes bytes with
  | noMatch => exact hno'.mpr (hno.mp hc)
  | potentialMatch => exact hpotential'.mpr (hpotential.mp hc)
  | isMatch => exact hmatch'.mpr (hmatch.mp hc)
  | maxMatch => exact hmax'.mpr (hmax.mp hc)

theorem full_classifyBytes (h : compile engine pattern limits = .ok m) (bytes : List UInt8) :
    (m.classifyBytes bytes).full = true ↔ Language pattern bytes := by
  obtain ⟨hmatch, hmax, hpotential, hno⟩ := classifyBytes_iff_language h bytes
  have hempty : Language pattern bytes → ∃ w, Language pattern (bytes ++ w) := fun hl =>
    ⟨[], by simpa using hl⟩
  cases hc : m.classifyBytes bytes with
  | noMatch => simpa [Classification.full] using mt hempty (hno.mp hc)
  | potentialMatch => simpa [Classification.full] using (hpotential.mp hc).1
  | isMatch => simpa [Classification.full] using (hmatch.mp hc).1
  | maxMatch => simpa [Classification.full] using (hmax.mp hc).1

theorem parse_choice : Form.parse false "1(?:2|34)?" = .ok (.seq (.literal [0x31])
    (.iterate 0 (some 1) true (.alt (.literal [0x32]) (.literal [0x33, 0x34])))) := by
  decide +kernel

theorem language_choice (text : List UInt8) : Language "1(?:2|34)?" text ↔
    text = [0x31] ∨ text = [0x31, 0x32] ∨ text = [0x31, 0x33, 0x34] := by
  rw [← (Form.language_of_parse parse_choice).2]
  constructor
  · rintro ⟨_, rest, rfl, rfl, hrest⟩
    rcases Between.times_one.mp hrest with rfl | rfl | rfl
    · exact Or.inl rfl
    · exact Or.inr (Or.inl rfl)
    · exact Or.inr (Or.inr rfl)
  · have hword {rest : List UInt8} (h : rest = [] ∨ rest = [0x32] ∨ rest = [0x33, 0x34]) :
        (Form.seq (.literal [0x31]) (.iterate 0 (some 1) true
          (.alt (.literal [0x32]) (.literal [0x33, 0x34])))).Language (0x31 :: rest) :=
      ⟨[0x31], rest, rfl, rfl, Between.times_one.mpr h⟩
    rintro (rfl | rfl | rfl)
    · exact hword (Or.inl rfl)
    · exact hword (Or.inr (Or.inl rfl))
    · exact hword (Or.inr (Or.inr rfl))

theorem exists_compile_choice : ∃ m : Matcher,
    compile engine "1(?:2|34)?" ⟨none, none, false⟩ = .ok m := by
  obtain ⟨m, hm, -⟩ : ∃ m, compile engine "1(?:2|34)?" ⟨none, none, false⟩ = .ok m ∧ m.form = _ :=
    exists_compile_ok rfl rfl parse_choice (by decide) rfl
  exact ⟨m, hm⟩

theorem classifyBytes_choice (h : compile engine "1(?:2|34)?" limits = .ok m) :
    m.classifyBytes [0x31] = .isMatch ∧ m.classifyBytes [0x31, 0x33] = .potentialMatch ∧
      m.classifyBytes [0x31, 0x33, 0x34] = .maxMatch := by
  have hanswers := classifyBytes_iff_language h
  simp only [language_choice] at hanswers
  refine ⟨(hanswers _).1.mpr ⟨by decide, .digit2, by decide⟩,
    (hanswers _).2.2.1.mpr ⟨by decide, [0x34], by decide⟩, (hanswers _).2.1.mpr ⟨by decide, ?_⟩⟩
  rintro ⟨symbol, hsymbol⟩
  simp at hsymbol

/-- The four answers about a text: it is matched and one more symbol is matched again, it is matched
and no symbol is, it is not matched but begins something that is, or nothing that begins like it
is. -/
theorem classifyText_iff_language (h : compile engine pattern limits = .ok m) (buffer : String) :
    (m.classifyText buffer = .isMatch ↔ Language pattern (Text.Utf8.encode buffer) ∧
      ∃ symbol : Symbol, Language pattern (Text.Utf8.encode buffer ++ [symbol.byte])) ∧
    (m.classifyText buffer = .maxMatch ↔ Language pattern (Text.Utf8.encode buffer) ∧
      ∀ symbol : Symbol, ¬ Language pattern (Text.Utf8.encode buffer ++ [symbol.byte])) ∧
    (m.classifyText buffer = .potentialMatch ↔ ¬ Language pattern (Text.Utf8.encode buffer) ∧
      ∃ w, w ≠ [] ∧ Language pattern (Text.Utf8.encode buffer ++ w)) ∧
    (m.classifyText buffer = .noMatch ↔
      ∀ w, ¬ Language pattern (Text.Utf8.encode buffer ++ w)) := by
  simpa only [classifyText, not_exists] using classifyBytes_iff_language h (Text.Utf8.encode buffer)

/-- All four answers are given by one pattern. -/
theorem classifyText_iff_language_choice : ∃ m : Matcher,
    compile .typical "1(?:2|34)?" ⟨none, none, false⟩ = .ok m ∧
    m.classifyText "1" = .isMatch ∧ m.classifyText "134" = .maxMatch ∧
    m.classifyText "13" = .potentialMatch ∧ m.classifyText "14" = .noMatch := by
  obtain ⟨m, hm⟩ := exists_compile_choice
  have hanswers := classifyText_iff_language hm
  simp only [language_choice] at hanswers
  have hencode : Text.Utf8.encode "1" = [0x31] ∧ Text.Utf8.encode "134" = [0x31, 0x33, 0x34] ∧
      Text.Utf8.encode "13" = [0x31, 0x33] ∧ Text.Utf8.encode "14" = [0x31, 0x34] := by
    decide +kernel
  obtain ⟨hone, hlong, hshort, hother⟩ := hencode
  refine ⟨m, hm, (hanswers _).1.mpr ?_, (hanswers _).2.1.mpr ?_, (hanswers _).2.2.1.mpr ?_,
    (hanswers _).2.2.2.mpr ?_⟩
  · rw [hone]
    exact ⟨by decide, .digit2, by decide⟩
  · rw [hlong]
    exact ⟨by decide, fun symbol => by simp⟩
  · rw [hshort]
    exact ⟨by decide, [0x34], by decide⟩
  · rw [hother]
    simp

end Matcher

end Keypad
