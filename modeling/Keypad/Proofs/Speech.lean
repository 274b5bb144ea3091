import Keypad.Proofs.Participation
/-!
Utterances that are spelled out. Each word begins alike and then says its character, the two signs
in a word of letters; still no two texts sound alike. The names of groups have no hyphen, so no tag
sounds like a spelled text.
-/
namespace Keypad.Spoken

def said (c : Char) : List Char :=
  if c = '*' then ['s', 't', 'a', 'r'] else if c = '#' then ['p', 'o', 'u', 'n', 'd'] else [c]

theorem toList_word (c : Char) : (word c).toList = lead.toList ++ said c := by
  have hsymbol : ∀ s : Symbol, s.spoken.toList = said s.char := by
    intro s
    cases s <;> decide
  unfold word
  split
  · next s hs => rw [String.toList_append, hsymbol, Symbol.char_of_ofChar? hs]
  · next hnone =>
    have hstar : c ≠ '*' := fun h => by
      subst h
      exact absurd hnone (by decide)
    have hpound : c ≠ '#' := fun h => by
      subst h
      exact absurd hnone (by decide)
    rw [String.toList_append, said, if_neg hstar, if_neg hpound]
    simp

def words (cs : List Char) : List Char :=
  List.intercalate [' '] (cs.map fun c => lead.toList ++ said c)

def pause : List Char → List Char
  | [] => []
  | c :: cs => ' ' :: words (c :: cs)

theorem toList_utterance (text : String) : (utterance text).toList = words text.toList := by
  rw [utterance, String.toList_intercalate, List.map_map, words]
  exact congrArg _ (List.map_congr_left fun c _ => toList_word c)

theorem words_cons (c : Char) (cs : List Char) :
    words (c :: cs) = lead.toList ++ (said c ++ pause cs) := by
  cases cs with
  | nil => simp [words, pause]
  | cons d cs => simp [words, pause]

theorem head_pause (cs : List Char) : ∀ x ∈ (pause cs).head?, x = ' ' := by
  cases cs with
  | nil => simp [pause]
  | cons c cs => simp [pause, eq_comm]

def heard : List Char → Option (Char × List Char)
  | 's' :: 't' :: 'a' :: 'r' :: rest => some ('*', rest)
  | 'p' :: 'o' :: 'u' :: 'n' :: 'd' :: rest => some ('#', rest)
  | c :: rest => some (c, rest)
  | [] => none

/-- A letter that stands for itself is followed by a blank, so it is not taken for the start of a
sign. -/
theorem heard_said (c : Char) {rest : List Char} (h : ∀ x ∈ rest.head?, x = ' ') :
    heard (said c ++ rest) = some (c, rest) := by
  unfold said
  split
  · next hc =>
    subst hc
    rfl
  split
  · next hc =>
    subst hc
    rfl
  · rw [List.singleton_append]
    unfold heard
    split <;> simp_all

theorem words_injective {cs ds : List Char} (h : words cs = words ds) : cs = ds := by
  have hne : ∀ c cs, words (c :: cs) ≠ [] := fun c cs => by simp [words_cons, lead]
  induction cs generalizing ds with
  | nil =>
    cases ds with
    | nil => rfl
    | cons d ds => exact absurd h.symm (hne d ds)
  | cons c cs ih =>
    cases ds with
    | nil => exact absurd h (hne c cs)
    | cons d ds =>
      rw [words_cons, words_cons, List.append_cancel_left_eq] at h
      -- both words are heard to their end, so the pauses behind them are alike too
      have hheard := congrArg heard h
      rw [heard_said c (head_pause cs), heard_said d (head_pause ds)] at hheard
      obtain ⟨rfl, hpause⟩ := Prod.mk.inj (Option.some.inj hheard)
      cases cs with
      | nil =>
        cases ds with
        | nil => rfl
        | cons d' ds => cases hpause
      | cons c' cs =>
        cases ds with
        | nil => cases hpause
        | cons d' ds => rw [ih (List.cons.inj hpause).2]

/-- No two texts are spelled out alike, whatever their characters are. -/
theorem utterance_inj {s t : String} : utterance s = utterance t ↔ s = t := by
  refine ⟨fun h => ?_, congrArg utterance⟩
  rw [← String.toList_inj, toList_utterance, toList_utterance] at h
  exact String.toList_inj.mp (words_injective h)

/-- The letters of a sign that are said one by one are not the sign. -/
example : utterance "star" = "dtmf-s dtmf-t dtmf-a dtmf-r" ∧ utterance "*" = "dtmf-star" := by
  decide

theorem lead_prefix_utterance {text : String} (h : text ≠ "") :
    lead.toList <+: (utterance text).toList := by
  rw [toList_utterance]
  cases htext : text.toList with
  | nil => exact absurd (String.toList_eq_nil_iff.mp htext) h
  | cons c cs =>
    rw [words_cons]
    exact List.prefix_append _ _

theorem hyphen_mem_lead : '-' ∈ lead.toList := by decide

end Keypad.Spoken

namespace Keypad

open Keypad.Automaton Keypad.Pattern

theorem Pattern.Parser.Named.hyphen_not_mem {names : List String} {name : String}
    (h : Parser.Named names name) :
    '-' ∉ name.toList := by
  have hfirst : Parser.isNameChar true '-' = false := by decide
  have hrest : Parser.isNameChar false '-' = false := by decide
  cases hname : name.toList with
  | nil => exact absurd hname h.ne_nil
  | cons c cs =>
    intro hmem
    rcases List.mem_cons.mp hmem with rfl | hmem
    · have hc := (h.first '-' (by rw [hname]; rfl)).1
      rw [hfirst] at hc
      cases hc
    · have hc := (h.rest '-' (by rw [hname]; exact hmem)).1
      rw [hrest] at hc
      cases hc

theorem TagReader.hyphen_not_mem_tag {engine : Engine} {limit : Nat} {regex utterance tag : String}
    {r : TagReader} (h : compile engine false limit regex = .ok r)
    (htag : r.find utterance = some tag) : '-' ∉ tag.toList := by
  obtain ⟨form, hform, -, rfl⟩ := compile_eq_ok_iff.mp h
  obtain ⟨route, -, i, -, hcarries, -⟩ := (find_eq_some_iff h).mp htag
  have hname : sign.toString ++ tag ∈ form.names := List.mem_filterMap.mpr ⟨_, hcarries, rfl⟩
  have hnamed := ((Form.titled_parse hform).1 _ hname).hyphen_not_mem
  rw [String.toList_append] at hnamed
  exact fun hmem => hnamed (List.mem_append_right _ hmem)

namespace Grammar

variable {engine : Engine} {pattern : String} {mode : Mode} {limits : Limits} {g : Grammar}
  {buffer : String} {found : Match}

/-- What a match says of a buffer begins like a spelled text exactly when no tag was found, which is
so when none of the groups that carry a tag takes part in the match. -/
theorem startsWith_lead_iff (h : compile engine pattern mode limits = .ok g) (hne : buffer ≠ "")
    (hfound : g.find buffer = .isMatch found ∨ g.find buffer = .maxMatch found) :
    (found.interpretation.startsWith "dtmf-" = true ↔ g.tags.find buffer = none) ∧
      (g.tags.find buffer = none ↔
        ∀ route, g.tags.program.LeftmostFirst (Text.Utf8.encode buffer) route →
        ∀ i tag, g.tags.Carries i tag → ¬ g.tags.program.TakesPart i route) := by
  refine ⟨?_, TagReader.find_eq_none_iff⟩
  obtain ⟨-, rfl⟩ := full_of_find hfound
  rw [String.startsWith_string_iff]
  show Spoken.lead.toList <+: (g.tags.interpret buffer).toList ↔ _
  rw [TagReader.interpret]
  cases hfind : g.tags.find buffer with
  | none => exact iff_of_true (Spoken.lead_prefix_utterance hne) rfl
  | some tag =>
    have htag := TagReader.hyphen_not_mem_tag (compile_eq_ok_iff.mp h).2.2 hfind
    exact iff_of_false (fun hlead => htag (hlead.subset Spoken.hyphen_mem_lead))
      (Option.some_ne_none tag)

/-- The name of the group comes as close to a spelled text as it can. -/
theorem startsWith_lead_named :
    ∃ g found, compile .typical "(?<_dtmf>1)" .dtmf ⟨none, none, false⟩ = .ok g ∧
    (g.find "1" = .isMatch found ∨ g.find "1" = .maxMatch found) ∧ g.tags.find "1" = some "dtmf" ∧
    found.interpretation.startsWith "dtmf-" = false := by
  have hform : Form.parse false "(?<_dtmf>1)" =
      .ok (.group 1 (some "_dtmf") (.literal [0x31])) := by decide +kernel
  have htagged : Form.parse false
      (anchoredText (.group 1 (some "_dtmf") (.literal [0x31]))) = .ok (.seq
      (.look .textStart) (.seq (.group 1 (some "_dtmf") (.literal [0x31])) (.look .textEnd))) := by
    decide +kernel
  obtain ⟨g, hg, -, htags⟩ : ∃ g, compile .typical "(?<_dtmf>1)" .dtmf ⟨none, none, false⟩ = .ok g ∧
      g.matcher.form = _ ∧ g.tags = _ :=
    exists_compile_ok rfl rfl hform (by decide) rfl htagged (by decide +kernel)
  have hencode : Text.Utf8.encode "1" = [0x31] := by decide +kernel
  obtain ⟨found, hfound⟩ := find_of_full ((Matcher.full_classifyBytes (compile_eq_ok hg).1 _).mpr
    (((Form.language_of_parse hform).2 _).mp hencode))
  have hfind : g.tags.find "1" = some "dtmf" := by
    rw [htags]
    decide +kernel
  have hiff := (startsWith_lead_iff hg (by decide) hfound).1
  rw [hfind] at hiff
  exact ⟨g, found, hg, hfound, hfind,
    Bool.eq_false_iff.mpr fun hlead => Option.some_ne_none _ (hiff.mp hlead)⟩

end Grammar

end Keypad
