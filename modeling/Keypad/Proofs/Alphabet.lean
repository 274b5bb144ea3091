import Keypad.Proofs.Discipline
/-!
Symbols and their text. Writing a list of symbols and reading it are inverse to each other; what
cannot be read is reported at its first character that is on no key.
-/
namespace Keypad.Symbol

def keys : String := "0123456789#*ABCD"

@[simp] theorem map_char_all : all.map char = keys.toList := by decide

theorem isKey_iff_mem_keys {c : Char} : IsKey c ↔ c ∈ keys.toList := by
  rw [← map_char_all, List.mem_map, IsKey]
  simp only [mem_all, true_and]

theorem readAll_append_fault {before : List Char} {c : Char} (hbefore : ∀ x ∈ before, IsKey x)
    (hc : ¬ IsKey c) (after : List Char) (n : Nat) :
    readAll n (before ++ c :: after) = .error ⟨c, some (n + before.length)⟩ := by
  induction before generalizing n with
  | nil =>
    rw [List.nil_append, readAll, ofChar?_eq_none_iff.mpr hc]
    rfl
  | cons x before ih =>
    obtain ⟨⟨s, hs⟩, hbefore⟩ := List.forall_mem_cons.mp hbefore
    have hplace : n + 1 + before.length = n + (x :: before).length := by
      rw [List.length_cons]
      omega
    rw [List.cons_append, readAll, ofChar?_eq_some_iff.mpr hs, ih hbefore, hplace]

@[simp] theorem parse_textOf (symbols : List Symbol) : parse (textOf symbols) = .ok symbols := by
  rw [parse, textOf, String.toList_ofList, readAll_map_char]

theorem parse_eq_ok_iff {text : String} {symbols : List Symbol} :
    parse text = .ok symbols ↔ textOf symbols = text := by
  refine ⟨fun h => ?_, fun h => h ▸ parse_textOf symbols⟩
  rw [textOf, readAll_eq_ok h, String.ofList_toList]

theorem parse_eq_error_iff {text : String} {e : SymbolError} :
    parse text = .error e ↔ FirstFault text e := by
  refine ⟨fun h => ?_, fun ⟨⟨before, after, htext, hbefore, hoffset⟩, hfault⟩ => ?_⟩
  · obtain ⟨symbols, hread, -⟩ | ⟨e', hread, hfault⟩ := parse_cases text
    · rw [hread] at h
      cases h
    · rw [hread] at h
      exact Except.error.inj h ▸ hfault
  · rw [parse, htext, readAll_append_fault hbefore hfault, Nat.zero_add, ← hoffset]

theorem exists_parse_error_iff {text : String} :
    (∃ e, parse text = .error e) ↔ ∃ c ∈ text.toList, ¬ IsKey c := by
  constructor
  · rintro ⟨e, he⟩
    have hfault := parse_eq_error_iff.mp he
    exact ⟨e.found, hfault.found_mem, hfault.fault⟩
  · rintro ⟨c, hc, hfault⟩
    obtain ⟨symbols, -, rfl⟩ | ⟨e, he, -⟩ := parse_cases text
    · exact absurd (isKey_of_mem_textOf hc) hfault
    · exact ⟨e, he⟩

/-- Symbols that were written are read again, and what is read as symbols is what they are written
as. A text is refused exactly when one of its characters is on no key. The error then shows the
first such character and the number of characters in front of it, all of them keys. -/
theorem text_inverse :
    (∀ symbols, parse (textOf symbols) = .ok symbols) ∧
    (∀ text symbols, parse text = .ok symbols → textOf symbols = text) ∧
    (∀ text, (∃ e, parse text = .error e) ↔ ∃ c ∈ text.toList, c ∉ keys.toList) ∧
    ∀ text e, parse text = .error e ↔ ∃ before after, text.toList = before ++ e.found :: after ∧
      (∀ c ∈ before, c ∈ keys.toList) ∧ e.found ∉ keys.toList ∧ e.offset = some before.length := by
  refine ⟨parse_textOf, fun text symbols => parse_eq_ok_iff.mp, fun text => ?_, fun text e => ?_⟩
  · simp only [exists_parse_error_iff, isKey_iff_mem_keys]
  · rw [parse_eq_error_iff]
    simp only [← isKey_iff_mem_keys]
    constructor
    · rintro ⟨⟨before, after, htext, hbefore, hoffset⟩, hfault⟩
      exact ⟨before, after, htext, hbefore, hfault, hoffset⟩
    · rintro ⟨before, after, htext, hbefore, hfault, hoffset⟩
      exact ⟨⟨before, after, htext, hbefore, hoffset⟩, hfault⟩

/-- Places count characters, and a small letter is on no key. -/
example : parse "1é#b" = .error ⟨'é', some 1⟩ := by decide

end Keypad.Symbol
