import Keypad.Proofs.Agreement
import Keypad.Proofs.Fidelity
import Keypad.Proofs.Stepping
/-!
The tag of a buffer is that of the last group in the preferred match of the pattern as it is
written. The reader of tags goes through two normal forms and a written form in between; each has to
keep the order of preference, and the groups, which are numbered anew, are known by their names.
-/
namespace Keypad.Pattern

open Keypad.Automaton
open Automaton.Program (leaving)
open Flags (plain)

section Groups

variable {groups : List (Nat × Option String)} {trail : Trail}

def namesIn (groups : List (Nat × Option String)) (trail : Trail) : Set String :=
  {name | ∃ i ∈ trail, (i, some name) ∈ groups}

@[simp] theorem namesIn_nil : namesIn groups [] = ∅ := by simp [namesIn]

theorem namesIn_leaving (hnodup : (groups.map Prod.fst).Nodup) {i : Nat} {name : Option String}
    (hmem : (i, name) ∈ groups) (trail : Trail) :
    namesIn groups (leaving i name trail) = named i name (namesIn groups trail) := by
  have hname : ∀ other, (i, other) ∈ groups ↔ other = name := fun other =>
    ⟨fun h => congrArg Prod.snd (List.inj_on_of_nodup_map hnodup h hmem rfl), fun h => h ▸ hmem⟩
  ext other
  have hsplit : other ∈ namesIn groups (leaving i name trail) ↔
      other ∈ namesIn groups trail ∨ some other = name := by
    simp only [namesIn, leaving, Set.mem_ofPred_eq, List.mem_append, List.mem_singleton,
      or_and_right, exists_or, exists_eq_left, hname]
  rw [hsplit]
  cases name with
  | none => simp [named]
  | some name => simp [named, or_comm]

theorem eq_of_name (hnodup : (groups.filterMap Prod.snd).Nodup) {i j : Nat} {name : String}
    (hi : (i, some name) ∈ groups) (hj : (j, some name) ∈ groups) : i = j := by
  have hsymm : Std.Symm fun a b : Nat × Option String =>
      ∀ n, a.2 = some n → ∀ m, b.2 = some m → n ≠ m :=
    ⟨fun a b h n hn m hm => (h m hm n hn).symm⟩
  by_contra hne
  exact (List.pairwise_filterMap.mp hnodup).forall hi hj (fun heq => hne (congrArg Prod.fst heq))
    name rfl name rfl rfl

theorem mem_namesIn (hnodup : (groups.filterMap Prod.snd).Nodup) {i : Nat} {name : String}
    (hmem : (i, some name) ∈ groups) : name ∈ namesIn groups trail ↔ i ∈ trail := by
  refine ⟨?_, fun h => ⟨i, h, hmem⟩⟩
  rintro ⟨j, hj, hmem'⟩
  exact eq_of_name hnodup hmem' hmem ▸ hj

end Groups

section Tags

open TagReader (tagOf)

variable {groups : List (Nat × Option String)} {trail : Trail}

def tagsOf (groups : List (Nat × Option String)) (trail : Trail) : List String :=
  groups.filterMap fun g => if trail.contains g.1 then tagOf g.2 else none

open Classical in
theorem tagsOf_eq (hnodup : (groups.filterMap Prod.snd).Nodup) (trail : Trail) :
    tagsOf groups trail = (groups.filterMap Prod.snd).filterMap fun name =>
      if name ∈ namesIn groups trail then tagOf (some name) else none := by
  rw [List.filterMap_filterMap, tagsOf]
  refine List.filterMap_congr fun g hmem => ?_
  obtain ⟨i, name⟩ := g
  cases name with
  | none => exact ite_self none
  | some name =>
    refine if_congr ?_ rfl rfl
    rw [List.contains_iff_mem, mem_namesIn hnodup hmem]

theorem filterMap_of_sublist {α β : Type} {f : α → Option β} {l l' : List α} (hsub : l.Sublist l')
    (hnodup : l'.Nodup) (h : ∀ a ∈ l', (f a).isSome = true → a ∈ l) :
    l.filterMap f = l'.filterMap f := by
  induction hsub with
  | slnil => rfl
  | @cons l l' a hsub ih =>
    obtain ⟨ha, hl'⟩ := List.nodup_cons.mp hnodup
    have hnone : f a = none := Option.not_isSome_iff_eq_none.mp fun hsome =>
      ha (hsub.subset (h a List.mem_cons_self hsome))
    rw [List.filterMap_cons_none hnone, ih hl' fun b hb => h b (List.mem_cons_of_mem _ hb)]
  | @cons_cons l l' a hsub ih =>
    obtain ⟨ha, hl'⟩ := List.nodup_cons.mp hnodup
    have hrest := ih hl' fun b hb hsome => by
      rcases List.mem_cons.mp (h b (List.mem_cons_of_mem _ hb) hsome) with rfl | hmem
      · exact absurd hb ha
      · exact hmem
    rw [List.filterMap_cons, List.filterMap_cons, hrest]

theorem tagsOf_congr {groups' : List (Nat × Option String)} {trail' : Trail}
    (hsub : (groups.filterMap Prod.snd).Sublist (groups'.filterMap Prod.snd))
    (hnodup : (groups'.filterMap Prod.snd).Nodup)
    (hnames : namesIn groups trail = namesIn groups' trail') :
    tagsOf groups trail = tagsOf groups' trail' := by
  rw [tagsOf_eq (hnodup.sublist hsub), tagsOf_eq hnodup, hnames]
  refine filterMap_of_sublist hsub hnodup fun name _ hsome => ?_
  rw [← hnames] at hsome
  split at hsome
  · next hmem =>
    obtain ⟨i, -, hi⟩ := hmem
    exact List.mem_filterMap.mpr ⟨_, hi, rfl⟩
  · cases hsome

theorem getLast?_tagsOf_eq_some (hsorted : groups.Pairwise (·.1 < ·.1)) {tag : String}
    (h : (tagsOf groups trail).getLast? = some tag) :
    ∃ i name, (i, name) ∈ groups ∧ i ∈ trail ∧ tagOf name = some tag ∧
      ∀ j other, (j, other) ∈ groups → j ∈ trail → (tagOf other).isSome = true → j ≤ i := by
  rw [tagsOf, List.getLast?_filterMap, List.findSome?_eq_some_iff] at h
  obtain ⟨later, ⟨i, name⟩, earlier, hsplit, htag, hnone⟩ := h
  obtain ⟨hmem, htag⟩ := Option.ite_none_right_eq_some.mp htag
  have hgroups : groups = earlier.reverse ++ (i, name) :: later.reverse := by
    rw [← List.reverse_reverse groups, hsplit]
    simp
  rw [hgroups] at hsorted ⊢
  refine ⟨i, name, by simp, List.contains_iff_mem.mp hmem, htag, fun j other hj hjmem hsome => ?_⟩
  rcases List.mem_append.mp hj with hj | hj
  · exact ((List.pairwise_append.mp hsorted).2.2 _ hj _ List.mem_cons_self).le
  rcases List.mem_cons.mp hj with heq | hj
  · exact (congrArg Prod.fst heq).le
  · have hlater := hnone _ (List.mem_reverse.mp hj)
    rw [if_pos (List.contains_iff_mem.mpr hjmem)] at hlater
    rw [show tagOf other = none from hlater] at hsome
    cases hsome

theorem tagOf_eq_none_of_getLast? (h : (tagsOf groups trail).getLast? = none) :
    ∀ i name, (i, name) ∈ groups → i ∈ trail → tagOf name = none := by
  intro i name hmem hi
  have hnone := List.filterMap_eq_nil_iff.mp (List.getLast?_eq_none_iff.mp h) _ hmem
  rwa [if_pos (List.contains_iff_mem.mpr hi)] at hnone

end Tags

section Whole

variable {τ σ : Type} {mark : Nat → Option String → τ → τ}

def ending (t : τ) : Onward τ := fun _ after => if after.isEmpty then some t else none

theorem map_ending (h : τ → σ) (t : τ) :
    (fun before after => (ending t before after).map h) = ending (h t) := by
  funext before after
  unfold ending
  split <;> rfl

theorem Form.attempt_anchored (f : Form) (bytes : List UInt8) (t : τ) :
    f.anchored.attempt mark [] bytes (fun _ _ => some t) = f.attempt mark [] bytes (ending t) := by
  have hend : (fun before after => Attempt.check .textEnd before after fun _ _ => some t) =
      ending t := by
    funext before after
    cases after with
    | nil => rfl
    | cons b rest =>
      have hno : (Edge.ofByte? (some b) == .none) = false := by simp [Edge.ofByte?]
      exact if_neg (ne_true_of_eq_false hno)
  show Attempt.check .textStart [] bytes
    (fun before after => f.attempt mark before after fun before after =>
    Attempt.check .textEnd before after fun _ _ => some t) = _
  rw [hend]
  exact if_pos rfl

theorem Expr.sorted_groups {text : String} {e : Expr} (h : Expr.parse text = .ok e) :
    e.groups.Pairwise (·.1 < ·.1) := by
  obtain ⟨⟨n, hn⟩, -⟩ := Parser.numbered_parse h
  have hsorted : (e.groups.map Prod.fst).Pairwise (· < ·) := hn ▸ List.pairwise_lt_range' 1
  exact List.pairwise_map.mp hsorted

theorem Expr.nodup_groups {text : String} {e : Expr} (h : Expr.parse text = .ok e) :
    (e.groups.map Prod.fst).Nodup :=
  List.pairwise_map.mpr ((Expr.sorted_groups h).imp Nat.ne_of_lt)

theorem Form.attempt_named {f : Form} (hnodup : (f.groups.map Prod.fst).Nodup)
    (before after : List UInt8) :
    f.attempt named before after (fun _ _ => some ∅) =
      (f.attempt leaving before after fun _ _ => some []).map (namesIn f.groups) := by
  have halong : Attempt.Along (namesIn f.groups) (f.attempt leaving) (f.attempt named) :=
    Form.attempt_along fun i name hmem trail => namesIn_leaving hnodup hmem trail
  rw [← halong, Option.map_some, namesIn_nil]

theorem Flags.attempt_named {e : Expr} (hnodup : (e.groups.map Prod.fst).Nodup)
    (bytes : List UInt8) :
    plain.attempt named e [] bytes (ending ∅) =
      (plain.attempt leaving e [] bytes (ending [])).map (namesIn e.groups) := by
  have halong : Attempt.Along (namesIn e.groups) (plain.attempt leaving e)
      (plain.attempt named e) :=
    Flags.attempt_along plain e fun i name hmem trail => namesIn_leaving hnodup hmem trail
  rw [← halong, map_ending, namesIn_nil]

end Whole

end Keypad.Pattern

namespace Keypad

open Keypad.Automaton Keypad.Pattern
open Automaton.Program (leaving)
open Flags (plain)

namespace Grammar

variable {engine : Engine} {pattern : String} {mode : Mode} {limits : Limits} {g : Grammar}
  {span : Span} {es : List Expr}
  {tagged : Form}

/-- What keeps the order of preference on the way from the pattern to the reader of tags. The
pattern may repeat nothing without bound that can match the empty text, and where the normal form
draws a common start out of alternatives, that start allows one word at most. The form of the
matcher makes nothing optional that ends in an operator, since its written form would turn the
question mark into a mark of laziness. The reader of tags reads that written form between anchors,
so what is asked of the pattern is asked of this text as well; it is a condition of its own, as the
text is not the pattern. -/
structure Orderly (g : Grammar) (pattern : String) : Prop where
  pattern : ∀ e, Expr.parse pattern = .ok e → plain.Orderly e
  faithful : g.matcher.form.Faithful
  anchored : ∀ e, Expr.parse (anchoredText g.matcher.form) = .ok e → plain.Orderly e

theorem Reads.attempt (hr : g.Reads span es tagged) (ho : g.Orderly pattern) :
    tagged.attempt named = g.matcher.form.anchored.attempt named := by
  have hsound := Parser.sound_parse hr.parse
  have hfaithful : g.matcher.form.anchored.Faithful := ⟨trivial, ho.faithful, trivial⟩
  obtain ⟨flags, hform⟩ := hr.form
  obtain ⟨forms, hforms, -⟩ := Flags.form_concat_eq_ok.mp hform
  calc tagged.attempt named
    _ = plain.attempt named (.concat span es) :=
        Flags.attempt_form plain _ hsound (ho.anchored _ hr.parse) hform
    _ = Attempt.allOf (plain.attempts named es) := rfl
    _ = g.matcher.form.anchored.reread.attempt named := hr.written.attempt hsound hforms
    _ = g.matcher.form.anchored.attempt named := hfaithful.attempt_reread

theorem Reads.names (hr : g.Reads span es tagged) :
    tagged.names.Sublist g.matcher.form.names ∧ (tagged.groups.map Prod.fst).Nodup := by
  obtain ⟨flags, hform⟩ := hr.form
  have hsub : tagged.groups.Sublist (Expr.concat span es).groups := Flags.groups_form _ hform
  have hnames : (Expr.concat span es).names = g.matcher.form.names := by
    have hanchored : g.matcher.form.anchored.reread.names = g.matcher.form.names := by
      rw [Form.names_reread, Form.names, Form.names, Form.anchored]
      simp [Form.groups]
    exact ((names_many span es).1.trans hr.written.names).trans hanchored
  exact ⟨hnames ▸ hsub.filterMap Prod.snd, (Expr.nodup_groups hr.parse).sublist (hsub.map Prod.fst)⟩

/-- The reader of tags takes the groups of the preferred match of the pattern. -/
theorem Reads.preferredMatch (hr : g.Reads span es tagged)
    (h : compile engine pattern mode limits = .ok g) (ho : g.Orderly pattern) {e : Expr}
    (he : Expr.parse pattern = .ok e) (bytes : List UInt8) :
    (g.tags.program.preferredMatch bytes).map (namesIn tagged.groups) =
      (plain.attempt leaving e [] bytes (ending [])).map (namesIn e.groups) := by
  obtain ⟨hsound, hascii, hmatches⟩ := hr.matches h
  obtain ⟨flags, hform⟩ := hr.form
  have hgaining : tagged.Gaining :=
    Flags.gaining_form plain _ (Parser.sound_parse hr.parse) (ho.anchored _ hr.parse) hform
  have hfirst : ∀ before word after, tagged.Matches before word after → before = [] :=
    fun before word after hmatch =>
    ((hmatches _ _ _).mp hmatch).1
  have hpattern : g.matcher.form.attempt named = plain.attempt named e := by
    obtain ⟨-, -, hparse, -⟩ := Matcher.built_of_compile (compile_eq_ok h).1
    obtain ⟨e', flags', he', hform'⟩ := Form.parse_eq_ok.mp hparse
    obtain rfl := Except.ok.inj (he.symm.trans he')
    exact Flags.attempt_form plain e (Parser.sound_parse he) (ho.pattern e he) hform'
  rw [hr.tags, Program.preferredMatch_ofForm_first hsound.regular hgaining hascii hfirst,
    ← Form.attempt_named hr.names.2, hr.attempt ho, Form.attempt_anchored, hpattern,
      Flags.attempt_named (Expr.nodup_groups he)]

theorem names_of_compile (h : compile engine pattern mode limits = .ok g) :
    ∃ e, Expr.parse pattern = .ok e ∧ g.matcher.form.names.Sublist e.names := by
  obtain ⟨-, -, hparse, -⟩ := Matcher.built_of_compile (compile_eq_ok h).1
  obtain ⟨e, flags, he, hform⟩ := Form.parse_eq_ok.mp hparse
  exact ⟨e, he, (Flags.groups_form e hform).filterMap Prod.snd⟩

theorem full_of_find {buffer : String} {found : Match}
    (hfound : g.find buffer = .isMatch found ∨ g.find buffer = .maxMatch found) :
    (g.matcher.classifyText buffer).full = true ∧ found = g.matchOf buffer := by
  unfold find at hfound
  cases hc : g.matcher.classifyText buffer <;> simp_all [Classification.full]

theorem find_of_full {buffer : String} (hfull : (g.matcher.classifyText buffer).full = true) :
    ∃ found, g.find buffer = .isMatch found ∨ g.find buffer = .maxMatch found := by
  unfold find
  cases hc : g.matcher.classifyText buffer <;> simp_all [Classification.full]

theorem isSome_tags_of_full (h : compile engine pattern mode limits = .ok g)
    (hf : g.matcher.form.Faithful) {buffer : String}
    (hfull : (g.matcher.classifyText buffer).full = true) :
    (g.tags.program.preferredMatch (Text.Utf8.encode buffer)).isSome = true := by
  have hm := (compile_eq_ok h).1
  obtain ⟨-, -, -, hlanguage⟩ := Matcher.built_of_compile hm
  have hwords : g.matcher.form.Language (Text.Utf8.encode buffer) :=
    (hlanguage _).mpr ((Matcher.full_classifyBytes hm _).mp hfull)
  rw [isSome_preferredMatch_tags h, Form.Language, hf.legible.matches_reread]
  exact hwords

/-- The interpretation of a buffer that matches. The preferred match of the pattern as it is
written, among those of the whole buffer, leaves some groups. The tag of the one with the greatest
number counts; where none of them has a tag the buffer is spelled out. This holds of orderly
grammars: of patterns that repeat without bound only what takes a key, that make nothing optional
that ends in an operator, and whose written form between anchors is such a pattern again. -/
theorem interpretation_preferred (h : compile engine pattern mode limits = .ok g)
    (ho : g.Orderly pattern) {buffer : String} {found : Match}
    (hfound : g.find buffer = .isMatch found ∨ g.find buffer = .maxMatch found) :
    ∃ e trail, Expr.parse pattern = .ok e ∧
      plain.attempt leaving e [] (Text.Utf8.encode buffer) (ending []) = some trail ∧
      ((∃ i name, (i, name) ∈ e.groups ∧ i ∈ trail ∧
        TagReader.tagOf name = some found.interpretation ∧
          ∀ j other, (j, other) ∈ e.groups → j ∈ trail →
            (TagReader.tagOf other).isSome = true → j ≤ i) ∨
        ((∀ i name, (i, name) ∈ e.groups → i ∈ trail → TagReader.tagOf name = none) ∧
          found.interpretation = Spoken.utterance buffer)) := by
  obtain ⟨e, he, hsub⟩ := names_of_compile h
  obtain ⟨span, es, tagged, hr⟩ := exists_reads h
  obtain ⟨hfull, rfl⟩ := full_of_find hfound
  obtain ⟨trail', htrail'⟩ := Option.isSome_iff_exists.mp (isSome_tags_of_full h ho.faithful hfull)
  have hmap := hr.preferredMatch h ho he (Text.Utf8.encode buffer)
  rw [htrail', Option.map_some] at hmap
  obtain ⟨trail, htrail, hnames⟩ := Option.map_eq_some_iff.mp hmap.symm
  have htags : tagsOf tagged.groups trail' = tagsOf e.groups trail :=
    tagsOf_congr (hr.names.1.trans hsub) (Parser.numbered_parse he).2.1 hnames.symm
  have hfind : g.tags.find buffer = (tagsOf e.groups trail).getLast? := by
    rw [TagReader.find, htrail', Option.bind_some, ← htags, hr.tags]
    rfl
  have hinterpret : (g.matchOf buffer).interpretation =
      ((tagsOf e.groups trail).getLast?).getD (Spoken.utterance buffer) := hfind ▸ rfl
  refine ⟨e, trail, he, htrail, ?_⟩
  cases hlast : (tagsOf e.groups trail).getLast? with
  | some tag =>
    rw [hinterpret, hlast]
    exact Or.inl (getLast?_tagsOf_eq_some (Expr.sorted_groups he) hlast)
  | none =>
    rw [hinterpret, hlast]
    exact Or.inr ⟨tagOf_eq_none_of_getLast? hlast, rfl⟩

theorem orderly_of_tidy (hf : g.matcher.form.Faithful)
    (hpattern : (Expr.parse pattern).map plain.tidy = .ok true)
    (hanchored : (Expr.parse (anchoredText g.matcher.form)).map plain.tidy = .ok true) :
    g.Orderly pattern := by
  have htidy : ∀ {text}, (Expr.parse text).map plain.tidy = .ok true →
      ∀ e, Expr.parse text = .ok e → plain.Orderly e := by
    intro text h e he
    rw [he] at h
    exact Flags.orderly_of_tidy plain e (Parser.sound_parse he) (Except.ok.inj h)
  exact ⟨htidy hpattern, hf, htidy hanchored⟩

/-- The key `1` matches both alternatives of which the first is preferred, so it gets the first
tag. -/
theorem interpretation_preferred_first :
    ∃ g found, compile .typical "(?<_a>1)|(?<_b>12?)" .dtmf ⟨none, none, false⟩ = .ok g ∧
    g.Orderly "(?<_a>1)|(?<_b>12?)" ∧ (g.find "1" = .isMatch found ∨ g.find "1" = .maxMatch found) ∧
    found.interpretation = "a" := by
  have hform : Form.parse false "(?<_a>1)|(?<_b>12?)" =
      .ok (.alt (.group 1 (some "_a") (.literal [0x31]))
      (.group 2 (some "_b") (.seq (.literal [0x31])
        (.iterate 0 (some 1) true (.literal [0x32]))))) := by
    decide +kernel
  have htagged : Form.parse false (anchoredText (.alt (.group 1 (some "_a") (.literal [0x31]))
      (.group 2 (some "_b") (.seq (.literal [0x31])
        (.iterate 0 (some 1) true (.literal [0x32])))))) =
      .ok (.seq (.look .textStart) (.seq (.alt (.group 1 (some "_a") (.literal [0x31]))
        (.group 2 (some "_b") (.seq (.literal [0x31])
          (.iterate 0 (some 1) true (.literal [0x32])))))
        (.look .textEnd))) := by
    decide +kernel
  obtain ⟨g, hg, hmatcher, -⟩ :
      ∃ g, compile .typical "(?<_a>1)|(?<_b>12?)" .dtmf ⟨none, none, false⟩ = .ok g ∧
      g.matcher.form = _ ∧ g.tags = _ :=
    exists_compile_ok rfl rfl hform (by decide) rfl htagged (by decide +kernel)
  have ho : g.Orderly "(?<_a>1)|(?<_b>12?)" := by
    refine orderly_of_tidy ?_ (by decide +kernel) ?_
    · rw [hmatcher]
      exact ⟨trivial, trivial, fun h => Bool.noConfusion h.2.2, trivial⟩
    · rw [hmatcher]
      decide +kernel
  have hencode : Text.Utf8.encode "1" = [0x31] := by decide +kernel
  have hfull : (g.matcher.classifyText "1").full = true :=
    (Matcher.full_classifyBytes (compile_eq_ok hg).1 _).mpr
      (((Form.language_of_parse hform).2 _).mp (Or.inl hencode))
  obtain ⟨found, hfound⟩ := find_of_full hfull
  obtain ⟨e, trail, he, htrail, hor⟩ := interpretation_preferred hg ho hfound
  have heval : (Expr.parse "(?<_a>1)|(?<_b>12?)").map
      (fun e => (e.groups, plain.attempt leaving e [] (Text.Utf8.encode "1") (ending []))) =
        .ok ([(1, some "_a"), (2, some "_b")], some [1]) := by
    decide +kernel
  rw [he] at heval
  obtain ⟨hgroups, hattempt⟩ := Prod.mk.inj (Except.ok.inj heval)
  obtain rfl := Option.some.inj (htrail.symm.trans hattempt)
  have htagged₁ : TagReader.tagOf (some "_a") = some "a" := by decide +kernel
  refine ⟨g, found, hg, ho, hfound, ?_⟩
  rcases hor with ⟨i, name, hmem, hi, htag, -⟩ | ⟨hnone, -⟩
  · obtain rfl := List.mem_singleton.mp hi
    rw [hgroups] at hmem
    obtain rfl : name = some "_a" := by simpa using hmem
    rw [htagged₁] at htag
    exact (Option.some.inj htag).symm
  · have hfirst := hnone 1 (some "_a") (by simp [hgroups]) (List.mem_singleton_self 1)
    rw [htagged₁] at hfirst
    cases hfirst

/-- A question mark behind a star is read back as its mark of laziness. The pattern takes the key
before its group, the reader of tags within it. -/
theorem interpretation_misread : ∃ g found e,
    compile .typical "(?:1*)?(?<_t>1)?" .dtmf ⟨none, none, false⟩ = .ok g ∧
    (g.find "1" = .isMatch found ∨ g.find "1" = .maxMatch found) ∧ found.interpretation = "t" ∧
    Expr.parse "(?:1*)?(?<_t>1)?" = .ok e ∧
    plain.attempt leaving e [] (Text.Utf8.encode "1") (ending []) = some [] := by
  have hform : Form.parse false "(?:1*)?(?<_t>1)?" = .ok (.seq
      (.iterate 0 (some 1) true (.iterate 0 none true (.literal [0x31])))
      (.iterate 0 (some 1) true (.group 1 (some "_t") (.literal [0x31])))) := by
    decide +kernel
  have htagged : Form.parse false (anchoredText (.seq
      (.iterate 0 (some 1) true (.iterate 0 none true (.literal [0x31])))
      (.iterate 0 (some 1) true (.group 1 (some "_t") (.literal [0x31]))))) =
      .ok (.seq (.look .textStart) (.seq (.iterate 0 none false (.literal [0x31]))
        (.seq (.iterate 0 (some 1) true (.group 1 (some "_t") (.literal [0x31])))
          (.look .textEnd)))) := by
    decide +kernel
  obtain ⟨g, hg, -, htags⟩ : ∃ g,
      compile .typical "(?:1*)?(?<_t>1)?" .dtmf ⟨none, none, false⟩ = .ok g ∧
      g.matcher.form = _ ∧ g.tags = _ :=
    exists_compile_ok rfl rfl hform (by decide) rfl htagged (by decide +kernel)
  have hencode : Text.Utf8.encode "1" = [0x31] := by decide +kernel
  have hlanguage : Language "(?:1*)?(?<_t>1)?" (Text.Utf8.encode "1") := by
    rw [hencode]
    have hfirst : ((Form.literal [0x31]).Matches.times 0 none).times 0 (some 1) [] [0x31] [] :=
      Between.times_one.mpr (Or.inr ⟨1, Nat.zero_le 1, by simp, Between.power_one.mpr rfl⟩)
    exact ((Form.language_of_parse hform).2 _).mp
      ⟨[0x31], [], rfl, hfirst, Between.times_one.mpr (Or.inl rfl)⟩
  obtain ⟨found, hfound⟩ :=
    find_of_full ((Matcher.full_classifyBytes (compile_eq_ok hg).1 _).mpr hlanguage)
  obtain ⟨-, rfl⟩ := full_of_find hfound
  have hinterpret : (g.matchOf "1").interpretation = "t" := by
    show g.tags.interpret "1" = "t"
    rw [htags]
    decide +kernel
  have heval : (Expr.parse "(?:1*)?(?<_t>1)?").map (fun e => plain.attempt leaving e []
      (Text.Utf8.encode "1") (ending [])) = .ok (some []) := by decide +kernel
  obtain ⟨e, he, -⟩ := names_of_compile hg
  rw [he] at heval
  exact ⟨g, _, e, hg, hfound, hinterpret, he, Except.ok.inj heval⟩

end Grammar

end Keypad
