import Keypad.Proofs.Anchored
import Keypad.Proofs.Leftmost
/-!
A grammar reads a buffer twice: the matcher decides whether the buffer matches, and the reader of
tags looks for a match of the written form. The reader never finds a match where the matcher finds
none; it misses one where the written form has lost what the form says.
-/
namespace Keypad

open Keypad.Automaton Keypad.Pattern
open Flags (plain)

theorem TagReader.compile_eq_ok_iff {engine : Engine} {unicode : Bool} {limit : Nat} {text : String}
    {r : TagReader} :
    compile engine unicode limit text = .ok r ↔ ∃ form, Form.parse unicode text = .ok form ∧
      engine.captures form ≤ limit ∧ r = ⟨Program.ofForm form, form.groups⟩ := by
  unfold compile
  constructor
  · intro h
    split at h
    · cases h
    · next form hform =>
      split at h
      · cases h
      · next hroom => exact ⟨form, hform, Nat.not_lt.mp hroom, (Except.ok.inj h).symm⟩
  · rintro ⟨form, hform, hroom, rfl⟩
    rw [hform]
    exact if_neg (Nat.not_lt.mpr hroom)

namespace Grammar

variable {engine : Engine} {pattern : String} {mode : Mode} {limits : Limits} {g : Grammar}

theorem compile_eq_ok_iff : compile engine pattern mode limits = .ok g ↔
    Matcher.compile engine pattern limits = .ok g.matcher ∧ g.mode = mode ∧
      TagReader.compile engine false (limits.size.getD Limits.tenMebibytes)
        (anchoredText g.matcher.form) =
        .ok g.tags := by
  unfold compile
  constructor
  · intro h
    split at h
    · cases h
    · next m hm =>
      split at h
      · cases h
      · next tags htags =>
        obtain rfl := Except.ok.inj h
        exact ⟨hm, rfl, htags⟩
  · rintro ⟨hm, rfl, htags⟩
    rw [hm]
    dsimp only
    rw [htags]

theorem compile_eq_ok (h : compile engine pattern mode limits = .ok g) :
    Matcher.compile engine pattern limits = .ok g.matcher ∧ g.mode = mode ∧
      ∃ form, Form.parse false (anchoredText g.matcher.form) = .ok form ∧
        g.tags = ⟨Program.ofForm form, form.groups⟩ := by
  obtain ⟨hm, hmode, htags⟩ := compile_eq_ok_iff.mp h
  obtain ⟨form, hform, -, heq⟩ := TagReader.compile_eq_ok_iff.mp htags
  exact ⟨hm, hmode, form, hform, heq⟩

theorem exists_compile_of_room {m : Matcher} (hm : Matcher.compile engine pattern limits = .ok m)
    {tagged : Form} (htagged : Form.parse false (anchoredText m.form) = .ok tagged)
    (hroom : engine.captures tagged ≤ limits.size.getD Limits.tenMebibytes) :
    ∃ g, compile engine pattern mode limits = .ok g ∧ g.matcher = m ∧
      g.tags = ⟨Program.ofForm tagged, tagged.groups⟩ :=
  ⟨⟨mode, m, ⟨Program.ofForm tagged, tagged.groups⟩⟩,
    compile_eq_ok_iff.mpr ⟨hm, rfl,
      TagReader.compile_eq_ok_iff.mpr ⟨tagged, htagged, hroom, rfl⟩⟩, rfl, rfl⟩

theorem exists_compile_ok (hsize : limits.size = none) (hwork : limits.determinize = none)
    {form tagged : Form} (hform : Form.parse false pattern = .ok form)
    (hlength : codeSize form ≤ Matcher.programLimit)
    (hlooks : form.looks.any Look.isUnicode = false)
    (htagged : Form.parse false (anchoredText form) = .ok tagged)
    (hstorage : engine.captures tagged ≤ Limits.tenMebibytes) :
    ∃ g, compile engine pattern mode limits = .ok g ∧ g.matcher.form = form ∧
      g.tags = ⟨Program.ofForm tagged, tagged.groups⟩ := by
  obtain ⟨m, hm, rfl⟩ := Matcher.exists_compile_ok hsize hwork hform hlength hlooks
  obtain ⟨g, hg, rfl, htags⟩ := exists_compile_of_room hm htagged (by rwa [hsize])
  exact ⟨g, hg, rfl, htags⟩

theorem parse_anchoredText_choice : Form.parse false (anchoredText (.seq (.literal [0x31])
    (.iterate 0 (some 1) true (.alt (.literal [0x32]) (.literal [0x33, 0x34]))))) =
      .ok (.seq (.look .textStart) (.seq (.literal [0x31]) (.seq
        (.iterate 0 (some 1) true (.alt (.literal [0x32]) (.literal [0x33, 0x34])))
        (.look .textEnd)))) := by
  decide +kernel

structure Reads (g : Grammar) (span : Span) (es : List Expr) (tagged : Form) : Prop where
  written : WrittenParts g.matcher.form.reread.anchored es
  parse : Expr.parse (anchoredText g.matcher.form) = .ok (.concat span es)
  form : ∃ flags, plain.form (.concat span es) = .ok (tagged, flags)
  tags : g.tags = ⟨Program.ofForm tagged, tagged.groups⟩

theorem bytewise_of_compile (h : compile engine pattern mode limits = .ok g) :
    g.matcher.form.Bytewise := by
  obtain ⟨hbuilt, -⟩ := Matcher.built_of_compile (compile_eq_ok h).1
  intro l hl
  simpa using List.any_eq_false.mp hbuilt.ascii l hl

theorem exists_reads (h : compile engine pattern mode limits = .ok g) :
    ∃ span es tagged, g.Reads span es tagged := by
  obtain ⟨hm, -, form, hform, htags⟩ := compile_eq_ok h
  obtain ⟨-, hsound, hparse, -⟩ := Matcher.built_of_compile hm
  obtain ⟨htitled, hnodup⟩ := Form.titled_parse hparse
  obtain ⟨e, flags, he, hform⟩ := Form.parse_eq_ok.mp hform
  obtain ⟨span, es, hwritten, rfl⟩ :=
    Form.anchored_parse hsound htitled hnodup (bytewise_of_compile h) he
  exact ⟨span, es, _, hwritten, he, ⟨flags, hform⟩, htags⟩

/-- The form from which tags are read matches nothing but whole texts, namely those that the form of
the matcher matches once it was written and read again. -/
theorem Reads.matches {span : Span} {es : List Expr} {tagged : Form} (hr : g.Reads span es tagged)
    (h : compile engine pattern mode limits = .ok g) :
    tagged.Sound ∧ (∀ l ∈ tagged.looks, l.isUnicode = false) ∧
      ∀ before word after, tagged.Matches before word after ↔
        before = [] ∧ after = [] ∧ g.matcher.form.reread.Language word := by
  have hsound := Parser.sound_parse hr.parse
  obtain ⟨flags, hform⟩ := hr.form
  obtain ⟨-, hmatches, hsoundForm⟩ := Flags.form_eq_ok _ _ hsound hform
  obtain ⟨forms, hforms, rfl⟩ := Flags.form_concat_eq_ok.mp hform
  have hall : plain.Matches (.concat span es) = g.matcher.form.reread.anchored.Matches :=
    (hr.written.matches hsound hforms).2
  refine ⟨hsoundForm, fun l hl => ?_, fun before word after => ?_⟩
  · rw [Form.gathers_looks.concat] at hl
    have hmem := hr.written.looks hsound hforms hl
    rw [Form.looks_anchored, Form.looks_reread] at hmem
    rcases List.mem_cons.mp hmem with rfl | hmem
    · rfl
    rcases List.mem_append.mp hmem with hmem | hmem
    · exact bytewise_of_compile h l hmem
    · obtain rfl := List.mem_singleton.mp hmem
      rfl
  · rw [hmatches]
    exact hall ▸ Form.matches_anchored

variable (h : compile engine pattern mode limits = .ok g) (buffer : String)
include h

theorem isSome_preferredMatch_tags :
    (g.tags.program.preferredMatch (Text.Utf8.encode buffer)).isSome = true ↔
    g.matcher.form.reread.Language (Text.Utf8.encode buffer) := by
  obtain ⟨span, es, tagged, hr⟩ := exists_reads h
  obtain ⟨hsound, hascii, hmatches⟩ := hr.matches h
  rw [hr.tags, Program.isSome_preferredMatch hsound.regular hascii]
  constructor
  · rintro ⟨before, word, after, hword, hmatch⟩
    obtain ⟨rfl, rfl, hlanguage⟩ := (hmatches _ _ _).mp hmatch
    rwa [hword, List.nil_append, List.append_nil]
  · intro hlanguage
    exact ⟨[], _, [], by simp, (hmatches _ _ _).mpr ⟨rfl, rfl, hlanguage⟩⟩

/-- Whether the two readings of a buffer agree. The reader of tags finds a match exactly where what
is read back of the form matches the whole buffer; then the matcher finds one too. So they disagree
just where the pattern matches the buffer and what is read back of its form does not, which never
happens with a form that loses nothing by being written. -/
theorem tags_match_iff :
    ((g.tags.program.preferredMatch (Text.Utf8.encode buffer)).isSome = true ↔
      g.matcher.form.reread.Language (Text.Utf8.encode buffer)) ∧
    ((g.tags.program.preferredMatch (Text.Utf8.encode buffer)).isSome = true →
      (g.matcher.classifyText buffer).full = true) ∧
    (((g.tags.program.preferredMatch (Text.Utf8.encode buffer)).isSome = true ↔
        (g.matcher.classifyText buffer).full = true) ↔
      (Language pattern (Text.Utf8.encode buffer) →
        g.matcher.form.reread.Language (Text.Utf8.encode buffer))) ∧
    (g.matcher.form.Legible →
      ((g.tags.program.preferredMatch (Text.Utf8.encode buffer)).isSome = true ↔
        (g.matcher.classifyText buffer).full = true)) := by
  obtain ⟨hm, -⟩ := compile_eq_ok h
  obtain ⟨-, -, -, hlanguage⟩ := Matcher.built_of_compile hm
  have hfull : (g.matcher.classifyText buffer).full = true ↔
      Language pattern (Text.Utf8.encode buffer) :=
    Matcher.full_classifyBytes hm _
  have htags := isSome_preferredMatch_tags h buffer
  have hsubset : g.matcher.form.reread.Language (Text.Utf8.encode buffer) →
      Language pattern (Text.Utf8.encode buffer) := fun hread =>
    (hlanguage _).mp (Form.matches_of_reread hread)
  rw [htags, hfull]
  refine ⟨Iff.rfl, hsubset, ⟨fun hiff => hiff.mpr, fun hback => ⟨hsubset, hback⟩⟩,
    fun hlegible => ?_⟩
  rw [← hlanguage, Form.Language, Form.Language, hlegible.matches_reread]

omit h buffer in
/-- An optional repetition is read back as a lazy one, so a buffer matches without it and has no
tag. -/
theorem tags_match_iff_optional :
    ∃ g, compile .typical "(?<_t>2(?:1+)?)" .dtmf ⟨none, none, false⟩ = .ok g ∧
    (g.matcher.classifyText "2").full = true ∧
    (g.tags.program.preferredMatch (Text.Utf8.encode "2")).isSome = false := by
  have hform : Form.parse false "(?<_t>2(?:1+)?)" =
      .ok (.group 1 (some "_t") (.seq (.literal [0x32])
      (.iterate 0 (some 1) true (.iterate 1 none true (.literal [0x31]))))) := by
    decide +kernel
  have htagged : Form.parse false (anchoredText (.group 1 (some "_t") (.seq (.literal [0x32])
      (.iterate 0 (some 1) true (.iterate 1 none true (.literal [0x31])))))) =
      .ok (.seq (.look .textStart) (.seq (.group 1 (some "_t") (.seq (.literal [0x32])
        (.iterate 1 none false (.literal [0x31])))) (.look .textEnd))) := by
    decide +kernel
  obtain ⟨g, hg, hmatcher, -⟩ :
      ∃ g, compile .typical "(?<_t>2(?:1+)?)" .dtmf ⟨none, none, false⟩ = .ok g ∧
      g.matcher.form = _ ∧ g.tags = _ :=
    exists_compile_ok rfl rfl hform (by decide) rfl htagged (by decide +kernel)
  have hencode : Text.Utf8.encode "2" = [0x32] := by decide +kernel
  obtain ⟨htags, -⟩ := tags_match_iff hg "2"
  have hback : ¬ g.matcher.form.reread.Language (Text.Utf8.encode "2") := by
    rw [hmatcher, hencode]
    rintro ⟨_, v, hword, rfl, n, hmin, -, hpower⟩
    obtain rfl : v = [] := (List.cons.inj hword).2.symm
    obtain ⟨k, rfl⟩ := Nat.exists_eq_add_of_le' hmin
    obtain ⟨_, w, hnil, rfl, -⟩ := hpower
    cases hnil
  have hfull : Language "(?<_t>2(?:1+)?)" (Text.Utf8.encode "2") := by
    rw [hencode]
    exact ((Form.language_of_parse hform).2 _).mp
      ⟨[0x32], [], rfl, rfl, 0, Nat.le_refl 0, by simp, rfl⟩
  exact ⟨g, hg, (Matcher.full_classifyBytes (compile_eq_ok hg).1 _).mpr hfull,
    by simpa using mt htags.mp hback⟩

end Grammar

end Keypad
