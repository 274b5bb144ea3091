import Keypad.Proofs.Collection
/-!
The ways to ask about a buffer. Symbols reach the machine as bytes looked up in the registry or as a
text that is encoded first, and a grammar asks its matcher before it reads tags. All of them give
one answer, and a match shows the buffer as it was given.
-/
namespace Keypad

theorem Outcome.isSome_match? (o : Outcome) : o.match?.isSome = o.classification.full := by
  cases o <;> rfl

theorem Classification.full_iff_isMatch_or_maxMatch (c : Classification) :
    c.full = true ↔ c = .isMatch ∨ c = .maxMatch := by
  cases c <;> decide

namespace Grammar

theorem eq_matchOf {g : Grammar} {buffer : String} {found : Match}
    (h : (g.find buffer).match? = some found) :
    found = g.matchOf buffer := by
  unfold find at h
  split at h
  · cases h
  · cases h
  · exact (Option.some.inj h).symm
  · exact (Option.some.inj h).symm

/-- The matcher that is given symbols, the matcher that is given their text and the grammar that is
given either answer alike. Of any text, one of symbols or not, the grammar reports a match exactly
when the matcher says that the whole text matches; the match shows that very text and the mode of
the grammar, which is the mode that it was compiled with, whatever the pattern. -/
theorem entry_points_agree (g : Grammar) :
    (∀ symbols : List Symbol,
      g.matcher.classify symbols = g.matcher.classifyText (Symbol.textOf symbols) ∧
      g.matcher.classifyText (Symbol.textOf symbols) =
        (g.find (Symbol.textOf symbols)).classification ∧
      g.findSymbols symbols = g.find (Symbol.textOf symbols)) ∧
    (∀ buffer : String,
      ((∃ found, (g.find buffer).match? = some found) ↔
        g.matcher.classifyText buffer = .isMatch ∨ g.matcher.classifyText buffer = .maxMatch) ∧
      ∀ found, (g.find buffer).match? = some found →
        found.utterance = buffer ∧ found.mode = g.mode ∧ found.confidence = g.mode.confidence) ∧
    ∀ engine pattern mode limits, compile engine pattern mode limits = .ok g → g.mode = mode := by
  refine ⟨fun symbols => ⟨?_, ?_, rfl⟩, fun buffer => ⟨?_, fun found hfound => ?_⟩,
    fun _ _ _ _ h => ?_⟩
  · exact (Matcher.classifyText_textOf g.matcher symbols).symm
  · exact (classification_find g (Symbol.textOf symbols)).symm
  · rw [← Option.isSome_iff_exists, Outcome.isSome_match?, classification_find,
      Classification.full_iff_isMatch_or_maxMatch]
  · obtain rfl := eq_matchOf hfound
    exact ⟨rfl, rfl, rfl⟩
  · exact (compile_eq_ok_iff.mp h).2.1

end Grammar

end Keypad
