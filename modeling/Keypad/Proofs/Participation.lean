import Keypad.Proofs.Interpretation
/-!
The tag of an utterance, for any pattern and any text. Of the groups that take part in the
leftmost-first match and carry a tag the one with the greatest number counts; where there is no
match, or no group with a tag takes part, the whole utterance is spelled out.
-/
namespace Keypad.Pattern.Form

open Keypad.Automaton
open Automaton.Program (ofForm openings leaving)

/-- What the leftmost-first route in a text says of a form. There is no other one; the form matches
the word that the route takes, and none that begins earlier. Where every round of an unbounded
repetition takes something and no condition is one in Unicode, the groups that take part are those
that the first successful attempt notes when the ways of the form are tried in their order of
preference. -/
structure FirstMatch (f : Form) (text : List UInt8) (route : List Place) : Prop where
  only : ∀ other, (ofForm f).LeftmostFirst text other → other = route
  leftmost : ∃ before word after,
    text = before ++ word ++ after ∧ Program.Spans route before word after ∧
    f.MatchesUnder holdsAt before word after ∧ ∀ before' word' after',
      text = before' ++ word' ++ after' →
      f.MatchesUnder holdsAt before' word' after' → before.length ≤ before'.length
  preferred : f.Gaining → (∀ l ∈ f.looks, l.isUnicode = false) → ∃ trail,
    ((openings [] text).findSome? fun x =>
      f.attempt leaving x.before x.after fun _ _ => some []) = some trail ∧
      ∀ i, (ofForm f).TakesPart i route ↔ i ∈ trail

theorem firstMatch {f : Form} {text : List UInt8} {route : List Place} (hf : f.Regular)
    (h : (ofForm f).LeftmostFirst text route) : f.FirstMatch text route where
  only other hother := hother.unique h
  leftmost := Program.leftmostFirst_ofForm hf h
  preferred hgaining hascii := by
    refine ⟨_, ?_, fun i => Program.mem_notes.symm⟩
    rw [← Program.preferredMatch_ofForm hf hgaining hascii]
    exact Program.preferredMatch_eq_some_iff.mpr ⟨route, h, rfl⟩

end Keypad.Pattern.Form

namespace Keypad.TagReader

open Keypad.Automaton Keypad.Pattern

variable {engine : Engine} {unicode : Bool} {limit : Nat} {regex : String} {r : TagReader}
  {utterance tag : String}

/-- The name of a group is the sign of a tag with the tag behind it. -/
def Carries (r : TagReader) (group : Nat) (tag : String) : Prop :=
  (group, some (sign.toString ++ tag)) ∈ r.groups

theorem tagOf_eq_some_iff {name : Option String} :
    tagOf name = some tag ↔ name = some (sign.toString ++ tag) := by
  have hname : ∀ word : String, word = sign.toString ++ tag ↔ word.toList = sign :: tag.toList :=
    fun word => by
    rw [← String.toList_inj]
    simp
  cases name with
  | none => simp [tagOf]
  | some word =>
    rw [Option.some_inj, hname]
    cases hword : word.toList with
    | nil => simp [tagOf, hword]
    | cons c rest =>
      simp only [tagOf, Option.map_some, hword, Option.ite_none_right_eq_some, Option.some_inj,
        List.cons.injEq]
      rw [← String.toList_inj, String.toList_ofList]

theorem sorted_groups (h : compile engine unicode limit regex = .ok r) :
    r.groups.Pairwise (·.1 < ·.1) := by
  obtain ⟨form, hform, -, rfl⟩ := compile_eq_ok_iff.mp h
  obtain ⟨e, flags, he, hflags⟩ := Form.parse_eq_ok.mp hform
  exact (Expr.sorted_groups he).sublist (Flags.groups_form e hflags)

section Choice

variable {trail : Trail}

theorem getLast?_tagsIn_eq_none_iff :
    (r.tagsIn trail).getLast? = none ↔ ∀ i ∈ trail, ∀ tag, ¬ r.Carries i tag := by
  rw [List.getLast?_eq_none_iff, tagsIn, List.filterMap_eq_nil_iff]
  constructor
  · intro hnone i hi tag hcarries
    have htag := hnone _ hcarries
    dsimp only at htag
    rw [if_pos (List.contains_iff_mem.mpr hi), tagOf_eq_some_iff.mpr rfl] at htag
    cases htag
  · rintro hnone ⟨i, name⟩ hmem
    refine Option.eq_none_iff_forall_ne_some.mpr fun tag htag => ?_
    obtain ⟨hi, htag⟩ := Option.ite_none_right_eq_some.mp htag
    obtain rfl := tagOf_eq_some_iff.mp htag
    exact hnone i (List.contains_iff_mem.mp hi) tag hmem

theorem getLast?_tagsIn_eq_some_iff (hsorted : r.groups.Pairwise (·.1 < ·.1)) :
    (r.tagsIn trail).getLast? = some tag ↔
      ∃ i ∈ trail, r.Carries i tag ∧ ∀ j other, i < j → r.Carries j other → j ∉ trail := by
  have hlast : ∀ {tag}, (r.tagsIn trail).getLast? = some tag →
      ∃ i ∈ trail, r.Carries i tag ∧ ∀ j other, i < j → r.Carries j other → j ∉ trail := by
    intro tag h
    obtain ⟨i, name, hmem, hi, htag, hmax⟩ := getLast?_tagsOf_eq_some hsorted h
    obtain rfl := tagOf_eq_some_iff.mp htag
    refine ⟨i, hi, hmem, fun j other hlt hother hj => ?_⟩
    have hsome : (tagOf (some (sign.toString ++ other))).isSome = true := by
      rw [tagOf_eq_some_iff.mpr rfl]; rfl
    exact Nat.not_le_of_lt hlt (hmax j _ hother hj hsome)
  refine ⟨hlast, ?_⟩
  rintro ⟨i, hi, hcarries, hmax⟩
  cases h : (r.tagsIn trail).getLast? with
  | none => exact absurd hcarries (getLast?_tagsIn_eq_none_iff.mp h i hi tag)
  | some tag' =>
    -- both groups are the last one, and a number has one name
    obtain ⟨j, hj, hcarries', hmax'⟩ := hlast h
    obtain rfl : i = j := Nat.le_antisymm (Nat.not_lt.mp fun hlt => hmax' i tag hlt hcarries hi)
      (Nat.not_lt.mp fun hlt => hmax j tag' hlt hcarries' hj)
    have hnodup : (r.groups.map Prod.fst).Nodup := List.pairwise_map.mpr (hsorted.imp Nat.ne_of_lt)
    have hname := List.inj_on_of_nodup_map hnodup hcarries' hcarries rfl
    exact (tagOf_eq_some_iff.mpr rfl).symm.trans (tagOf_eq_some_iff.mpr (congrArg Prod.snd hname))

end Choice

/-- The tag of a match: of the groups that take part and carry one the group with the greatest
number counts. -/
def LastTag (r : TagReader) (route : List Place) (tag : String) : Prop :=
  ∃ i, r.program.TakesPart i route ∧ r.Carries i tag ∧
    ∀ j other, i < j → r.Carries j other → ¬ r.program.TakesPart j route

theorem find_eq_some_iff (h : compile engine unicode limit regex = .ok r) :
    r.find utterance = some tag ↔
    ∃ route, r.program.LeftmostFirst (Text.Utf8.encode utterance) route ∧ r.LastTag route tag := by
  rw [find, Option.bind_eq_some_iff]
  simp only [Program.preferredMatch_eq_some_iff, getLast?_tagsIn_eq_some_iff (sorted_groups h)]
  constructor
  · rintro ⟨_, ⟨route, hroute, rfl⟩, hlast⟩
    exact ⟨route, hroute, by simpa only [LastTag, Program.mem_notes] using hlast⟩
  · rintro ⟨route, hroute, hlast⟩
    exact ⟨_, ⟨route, hroute, rfl⟩, by simpa only [LastTag, Program.mem_notes] using hlast⟩

theorem find_eq_none_iff : r.find utterance = none ↔
    ∀ route, r.program.LeftmostFirst (Text.Utf8.encode utterance) route →
      ∀ i tag, r.Carries i tag → ¬ r.program.TakesPart i route := by
  rw [find, Option.bind_eq_none_iff]
  constructor
  · intro hnone route hroute i tag hcarries htakes
    have hlast := hnone _ (Program.preferredMatch_eq_some_iff.mpr ⟨route, hroute, rfl⟩)
    exact getLast?_tagsIn_eq_none_iff.mp hlast i (Program.mem_notes.mpr htakes) tag hcarries
  · intro hnone trail htrail
    obtain ⟨route, hroute, rfl⟩ := Program.preferredMatch_eq_some_iff.mp htrail
    exact getLast?_tagsIn_eq_none_iff.mpr fun i hi tag hcarries =>
      hnone route hroute i tag hcarries (Program.mem_notes.mp hi)

theorem regular_of_compile (h : compile engine unicode limit regex = .ok r) :
    ∃ form, Form.parse unicode regex = .ok form ∧ form.Regular ∧
      r = ⟨Program.ofForm form, form.groups⟩ := by
  obtain ⟨form, hform, -, hr⟩ := compile_eq_ok_iff.mp h
  obtain ⟨e, flags, he, hflags⟩ := Form.parse_eq_ok.mp hform
  obtain ⟨-, -, hsound⟩ := Flags.form_eq_ok _ e (Parser.sound_parse he) hflags
  exact ⟨_, hform, hsound.regular, hr⟩

/-- The tag of any text for any pattern. There is a leftmost-first match if the pattern matches some
word within the text, and none otherwise. A tag is found exactly when it is the last one of that
match. Otherwise the whole text is spelled out, also what stands before the match and behind it. -/
theorem interpret_leftmost_first (h : compile engine unicode limit regex = .ok r)
    (utterance : String) :
    ∃ form, Form.parse unicode regex = .ok form ∧ r = ⟨Program.ofForm form, form.groups⟩ ∧
      ((∃ route, r.program.LeftmostFirst (Text.Utf8.encode utterance) route) ↔
        ∃ before word after, Text.Utf8.encode utterance = before ++ word ++ after ∧
          form.MatchesUnder holdsAt before word after) ∧
      (∀ route, r.program.LeftmostFirst (Text.Utf8.encode utterance) route →
        form.FirstMatch (Text.Utf8.encode utterance) route) ∧
      (∀ tag, r.find utterance = some tag ↔
        ∃ route, r.program.LeftmostFirst (Text.Utf8.encode utterance) route ∧ r.LastTag route tag) ∧
      (r.find utterance = none ↔
        ∀ route, r.program.LeftmostFirst (Text.Utf8.encode utterance) route →
        ∀ i tag, r.Carries i tag → ¬ r.program.TakesPart i route) ∧
      (∀ tag, r.find utterance = some tag → r.interpret utterance = tag) ∧
      (r.find utterance = none → r.interpret utterance = Spoken.utterance utterance) := by
  obtain ⟨form, hform, hregular, rfl⟩ := regular_of_compile h
  refine ⟨form, hform, rfl, Program.exists_leftmostFirst_ofForm hregular,
    fun route => Form.firstMatch hregular, fun tag => find_eq_some_iff h, find_eq_none_iff,
    fun tag htag => ?_, fun hnone => ?_⟩
  · rw [interpret, htag, Option.getD_some]
  · rw [interpret, hnone, Option.getD_none]

/-- Both groups take part, the second one in an earlier round, and its tag counts. -/
theorem interpret_leftmost_first_both :
    ∃ r, compile .typical true Limits.tenMebibytes "x(?:(?<_a>1)|(?<_b>2))+" = .ok r ∧
    r.interpret "0x21" = "b" ∧ ∃ route, r.program.LeftmostFirst (Text.Utf8.encode "0x21") route ∧
      r.LastTag route "b" := by
  have hform : Form.parse true "x(?:(?<_a>1)|(?<_b>2))+" =
      .ok (.seq (.literal [0x78]) (.iterate 1 none true
      (.alt (.group 1 (some "_a") (.literal [0x31]))
        (.group 2 (some "_b") (.literal [0x32]))))) := by
    decide +kernel
  obtain ⟨r, hcompile, hr⟩ : ∃ r,
      compile .typical true Limits.tenMebibytes "x(?:(?<_a>1)|(?<_b>2))+" = .ok r ∧ r = ⟨_, _⟩ :=
    ⟨_, compile_eq_ok_iff.mpr ⟨_, hform, by decide +kernel, rfl⟩, rfl⟩
  have hfind : r.find "0x21" = some "b" := by
    rw [hr]
    decide +kernel
  obtain ⟨form, -, -, -, -, hsome, -, htag, -⟩ := interpret_leftmost_first hcompile "0x21"
  exact ⟨r, hcompile, htag _ hfind, (hsome _).mp hfind⟩

end Keypad.TagReader
