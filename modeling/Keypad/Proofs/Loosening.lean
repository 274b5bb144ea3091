import Keypad.Proofs.Agreement
/-!
What a change of limits does. Visiting the states of a program takes the same course under all
limits until one is broken, so a survey finds the same tally wherever that tally is affordable.
Looser limits therefore give the same matcher. They give the same grammar too, unless the reader of
tags falls back to the limit of its own.
-/
namespace Keypad

open Keypad.Automaton Keypad.Pattern

namespace Limits

/-- Of two limits the second allows all that the first does; no limit is looser than every
number. -/
def Relaxes (old new : Option Nat) : Prop := ∀ n ∈ new, ∃ m ∈ old, m ≤ n

/-- Each limit is at least as loose as before, and nothing else differs. -/
structure Looser (old new : Limits) : Prop where
  size : Relaxes old.size new.size
  determinize : Relaxes old.determinize new.determinize
  minimize : new.minimize = old.minimize

theorem Relaxes.le {old new : Option Nat} (h : Relaxes old new) {cost : Nat}
    (hold : ∀ n ∈ old, cost ≤ n) :
    ∀ n ∈ new, cost ≤ n := by
  intro n hn
  obtain ⟨m, hm, hle⟩ := h n hn
  exact (hold m hm).trans hle

end Limits

namespace Automaton

variable {engine : Engine} {p : Program} {old new : Limits} {stride : Nat}

theorem Tally.Below.refl (t : Tally) : t.Below t := ⟨Nat.le_refl _, Nat.le_refl _⟩

theorem Tally.Below.trans {t u v : Tally} (h : t.Below u) (h' : u.Below v) : t.Below v :=
  ⟨h.states.trans h'.states, h.stored.trans h'.stored⟩

theorem Tally.below_add (t : Tally) (bytes : Nat) : t.Below (t.add bytes) :=
  ⟨Nat.le_succ _, Nat.le_add_right _ _⟩

namespace Survey

variable {s s' : Survey} {r : Row} {rows : List Row} {t t' : Tally}

def Within (engine : Engine) (p : Program) (limits : Limits) (stride : Nat) (t : Tally) : Prop :=
  t.states = 0 ∨ Affordable engine p limits stride t

theorem Within.of_below (h : Within engine p new stride t') (hle : t.Below t') :
    Within engine p new stride t := by
  rcases h with hzero | hafford
  · have := hle.states
    exact Or.inl (by omega)
  · exact Or.inr ⟨fun n hn => (engine.table_mono p stride hle).trans (hafford.table n hn),
      fun n hn => (engine.work_mono p hle).trans (hafford.work n hn)⟩

theorem Within.looser (h : Within engine p old stride t) (hl : old.Looser new) :
    Within engine p new stride t :=
  h.imp_right fun hafford => ⟨hl.size.le hafford.table, hl.determinize.le hafford.work⟩

theorem visit_transfer (new : Limits) (h : s.visit engine p old stride r = .ok s') :
    s.tally.Below s'.tally ∧
      (Within engine p new stride s'.tally → s.visit engine p new stride r = .ok s') := by
  rw [visit] at h
  split at h
  · next hskip =>
    obtain rfl := Except.ok.inj h
    exact ⟨.refl _, fun _ => by rw [visit, if_pos hskip]⟩
  · next hnew =>
    dsimp only at h
    split at h
    · cases h
    obtain rfl := Except.ok.inj h
    refine ⟨s.tally.below_add _, fun hwithin => ?_⟩
    have hroom := broken?_eq_none_iff.mpr (hwithin.resolve_left (Nat.succ_ne_zero _))
    rw [visit, if_neg hnew]
    dsimp only
    rw [hroom]

theorem visitAll_transfer (new : Limits) (h : visitAll engine p old stride s rows = .ok s') :
    s.tally.Below s'.tally ∧
      (Within engine p new stride s'.tally → visitAll engine p new stride s rows = .ok s') := by
  induction rows generalizing s with
  | nil =>
    obtain rfl := Except.ok.inj h
    exact ⟨.refl _, fun _ => rfl⟩
  | cons r rows ih =>
    obtain ⟨t, hv, h⟩ := visitAll_cons_eq_ok.mp h
    obtain ⟨hfirst, hvisit⟩ := visit_transfer new hv
    obtain ⟨hrest, hall⟩ := ih h
    exact ⟨hfirst.trans hrest, fun hwithin =>
      visitAll_cons_eq_ok.mpr ⟨t, hvisit (hwithin.of_below hrest), hall hwithin⟩⟩

end Survey

namespace Program

open Survey

variable {letters : List UInt8} {s s' : Survey} {tally : Tally}

/-- Following states to the end takes the same course under other limits that allow what it leads
to. Fewer steps stop earlier on that course. -/
theorem follow_transfer (new : Limits) {fuel : Nat}
    (h : p.follow engine old letters stride fuel s = .ok s') (hdone : s'.pending = []) :
    s.tally.Below s'.tally ∧ (Within engine p new stride s'.tally →
      ∀ fuel', ∃ t, p.follow engine new letters stride fuel' s = .ok t ∧
        (t.pending = [] → t = s')) := by
  induction fuel generalizing s with
  | zero =>
    obtain rfl := Except.ok.inj h
    exact ⟨.refl _, fun _ fuel' => ⟨s, follow_of_done hdone fuel', fun _ => rfl⟩⟩
  | succ fuel ih =>
    cases hpending : s.pending with
    | nil =>
      obtain rfl := Except.ok.inj ((follow_of_done hpending _).symm.trans h)
      exact ⟨.refl _, fun _ fuel' => ⟨s, follow_of_done hpending fuel', fun _ => rfl⟩⟩
    | cons r rest =>
      obtain ⟨t, hv, h⟩ := (follow_succ_eq_ok hpending).mp h
      obtain ⟨hfirst, hvisit⟩ := visitAll_transfer new hv
      obtain ⟨hrest, hfollow⟩ := ih h
      refine ⟨hfirst.trans hrest, fun hwithin fuel' => ?_⟩
      cases fuel' with
      | zero =>
        refine ⟨s, rfl, fun hnil => ?_⟩
        rw [hpending] at hnil
        cases hnil
      | succ fuel' =>
        obtain ⟨u, hu, hsame⟩ := hfollow hwithin fuel'
        exact ⟨u, (follow_succ_eq_ok hpending).mpr ⟨t, hvisit (hwithin.of_below hrest), hu⟩, hsame⟩

theorem within_of_survey (h : p.survey engine old = .ok tally) :
    Within engine p old (Program.stride p.letters) tally := by
  obtain ⟨_, _, _, -, -, rfl, -, hp⟩ := exists_progress_of_survey h
  exact hp.counts.affordable

theorem survey_transfer (h : p.survey engine old = .ok tally)
    (hwithin : Within engine p new (Program.stride p.letters) tally) :
    p.survey engine new = .ok tally := by
  obtain ⟨s, s', -, hv, hf, rfl, hdone, -⟩ := exists_progress_of_survey h
  obtain ⟨hle, hfollow⟩ := follow_transfer new hf hdone
  obtain ⟨t, ht, hsame⟩ := hfollow hwithin (p.surveyBound new)
  have hvisit := (visitAll_transfer new hv).2 (hwithin.of_below hle)
  have hsurvey : p.survey engine new = .ok t.tally := survey_eq_ok.mpr ⟨s, t, hvisit, ht, rfl⟩
  -- under the new limits too there are steps enough
  obtain ⟨s₁, t₁, -, hv₁, hf₁, -, hdone₁, -⟩ := exists_progress_of_survey hsurvey
  obtain rfl := Except.ok.inj (hvisit.symm.trans hv₁)
  obtain rfl := Except.ok.inj (ht.symm.trans hf₁)
  rw [hsurvey, hsame hdone₁]

theorem survey_eq_ok_iff {limits : Limits} : p.survey engine limits = .ok tally ↔
    p.survey engine ⟨none, none, false⟩ = .ok tally ∧
      Within engine p limits (Program.stride p.letters) tally := by
  constructor
  · intro h
    exact ⟨survey_transfer h (Or.inr ⟨by simp, by simp⟩), within_of_survey h⟩
  · rintro ⟨h, hwithin⟩
    exact survey_transfer h hwithin

/-- A survey counts no row outside a list that is closed under reading, so it can be afforded where
the rows of the list can. -/
theorem exists_survey_ok_of_closed {limits : Limits} (L : List Row) (hstarts : p.starts ⊆ L)
    (hclosed : ∀ r ∈ L, p.successors p.letters r ⊆ L)
    (hroom : Affordable engine p limits (Program.stride p.letters)
      ⟨L.length, (L.map engine.describe).sum⟩) :
    ∃ tally, p.survey engine limits = .ok tally := by
  obtain ⟨tally, htally⟩ : ∃ tally, p.survey engine ⟨none, none, false⟩ = .ok tally :=
    p.exists_survey_ok rfl rfl
  obtain ⟨_, s', rows, -, -, rfl, -, hp⟩ := exists_progress_of_survey htally
  have hsub : rows ⊆ L :=
    hp.reached (· ∈ L) (fun r hr => hstarts hr) fun r hr t ht => hclosed r hr ht
  have hfew := List.subperm_of_subset hp.counts.nodup hsub
  have hbelow : s'.tally.Below ⟨L.length, (L.map engine.describe).sum⟩ := by
    refine ⟨hp.counts.length ▸ hfew.length_le, hp.counts.stored ▸ ?_⟩
    obtain ⟨rows', hperm, hsublist⟩ := hfew
    rw [← (hperm.map engine.describe).sum_eq]
    exact (hsublist.map engine.describe).sum_le_sum fun n _ => Nat.zero_le n
  exact ⟨_, survey_eq_ok_iff.mpr ⟨htally, Within.of_below (Or.inr hroom) hbelow⟩⟩

theorem survey_looser (h : p.survey engine old = .ok tally) (hl : old.Looser new) :
    p.survey engine new = .ok tally :=
  survey_transfer h ((within_of_survey h).looser hl)

end Program

end Automaton

variable {engine : Engine} {pattern : String} {old new : Limits}

theorem Matcher.compile_looser {m : Matcher} (h : compile engine pattern old = .ok m)
    (hl : old.Looser new) : compile engine pattern new = .ok m := by
  obtain ⟨form, hform, hlength, hlooks, tally, htally, rfl⟩ := compile_eq_ok_iff.mp h
  have hmatcher := compile_eq_ok_iff.mpr
    ⟨form, hform, hlength, hlooks, tally, Program.survey_looser htally hl, rfl⟩
  rwa [hl.minimize] at hmatcher

theorem Matcher.exists_compile_ok_of_closed {limits : Limits} {form : Form}
    (hform : Form.parse false pattern = .ok form) (hlength : codeSize form ≤ programLimit)
    (hlooks : form.looks.any Look.isUnicode = false) (L : List Row)
    (hstarts : (Program.ofForm form).starts ⊆ L)
    (hclosed : ∀ r ∈ L, (Program.ofForm form).successors (Program.ofForm form).letters r ⊆ L)
    (hroom : Survey.Affordable engine (Program.ofForm form) limits
      (Program.stride (Program.ofForm form).letters) ⟨L.length, (L.map engine.describe).sum⟩) :
    ∃ m, compile engine pattern limits = .ok m ∧ m.form = form := by
  obtain ⟨tally, htally⟩ := Program.exists_survey_ok_of_closed L hstarts hclosed hroom
  exact ⟨_, compile_eq_ok_iff.mpr ⟨form, hform, hlength, hlooks, tally, htally, rfl⟩, rfl⟩

namespace Grammar

/-- Under looser limits every matcher that compiled compiles again, to the same matcher. A grammar
that compiled compiles to the same grammar just when the reader of tags keeps to the limit that it
is given: its own limit counts as soon as there is no other, however loose the old limit was. -/
theorem compile_looser_iff (engine : Engine) (pattern : String) (hl : old.Looser new) :
    (∀ m, Matcher.compile engine pattern old = .ok m →
      Matcher.compile engine pattern new = .ok m) ∧
    ∀ mode g, compile engine pattern mode old = .ok g →
      Matcher.compile engine pattern new = .ok g.matcher ∧
        ∃ tagged, Form.parse false (anchoredText g.matcher.form) = .ok tagged ∧
          (compile engine pattern mode new = .ok g ↔
            (new.size = none → engine.captures tagged ≤ Limits.tenMebibytes)) := by
  refine ⟨fun m hm => Matcher.compile_looser hm hl, fun mode g h => ?_⟩
  obtain ⟨hm, hmode, htags⟩ := compile_eq_ok_iff.mp h
  obtain ⟨tagged, htagged, hroom, heq⟩ := TagReader.compile_eq_ok_iff.mp htags
  have hmatcher := Matcher.compile_looser hm hl
  refine ⟨hmatcher, tagged, htagged, ?_⟩
  have hnew : compile engine pattern mode new = .ok g ↔
      engine.captures tagged ≤ new.size.getD Limits.tenMebibytes := by
    rw [compile_eq_ok_iff, TagReader.compile_eq_ok_iff]
    constructor
    · rintro ⟨-, -, form, hform, hle, -⟩
      obtain rfl := Except.ok.inj (htagged.symm.trans hform)
      exact hle
    · exact fun hle => ⟨hmatcher, hmode, tagged, htagged, hle, heq⟩
  rw [hnew]
  cases hsize : new.size with
  | none => simp
  | some n =>
    obtain ⟨k, hk, hle⟩ := hl.size n hsize
    rw [Option.mem_def.mp hk] at hroom
    simpa using le_trans hroom hle

/-- A grammar that fits into half a kibibyte is the same grammar without a limit. -/
theorem compile_looser_iff_choice : ∃ g,
    compile .typical "1(?:2|34)?" .dtmf ⟨some 512, some 1024, false⟩ = .ok g ∧
    Matcher.compile .typical "1(?:2|34)?" ⟨none, some 4096, false⟩ = .ok g.matcher ∧
    compile .typical "1(?:2|34)?" .dtmf ⟨none, some 4096, false⟩ = .ok g := by
  obtain ⟨m, hm, hmform⟩ : ∃ m, Matcher.compile .typical "1(?:2|34)?" ⟨some 512, some 1024, false⟩ =
      .ok m ∧ m.form = _ :=
    Matcher.exists_compile_ok_of_closed Matcher.parse_choice (by decide) rfl
      [⟨false, ⟨.other, [0]⟩⟩, ⟨false, ⟨.other, []⟩⟩, ⟨false, ⟨.other, [3, 4, 6]⟩⟩,
        ⟨false, ⟨.other, [6]⟩⟩, ⟨true, ⟨.other, []⟩⟩, ⟨true, ⟨.other, [5]⟩⟩, ⟨true, ⟨.other, [6]⟩⟩]
      (by decide +kernel) (by decide +kernel) (by decide +kernel)
  obtain ⟨g, hg, rfl, -⟩ : ∃ g, compile .typical "1(?:2|34)?" .dtmf ⟨some 512, some 1024, false⟩ =
      .ok g ∧ g.matcher = m ∧ _ :=
    exists_compile_of_room hm (by rw [hmform, parse_anchoredText_choice]) (by decide +kernel)
  have hlooser : Limits.Looser ⟨some 512, some 1024, false⟩ ⟨none, some 4096, false⟩ :=
    ⟨by simp [Limits.Relaxes], by simp [Limits.Relaxes], rfl⟩
  obtain ⟨hmatcher, hgrammar⟩ := compile_looser_iff .typical "1(?:2|34)?" hlooser
  obtain ⟨-, tagged, hread, hiff⟩ := hgrammar _ g hg
  rw [hmform, parse_anchoredText_choice] at hread
  obtain rfl := Except.ok.inj hread
  exact ⟨g, hg, hmatcher _ hm, hiff.mpr fun _ => by decide +kernel⟩

end Grammar

end Keypad
