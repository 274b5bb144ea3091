import Keypad.Proofs.Members
import Keypad.Proofs.Recognition
/-!
What the constructors of the normal form do to what is matched: nothing. Empty parts, joined
literals, merged classes, drawn-out common starts and collapsed repetitions all match what was
written. The forms keep sound while they are built.
-/
namespace Keypad.Pattern

open Keypad.Charset

namespace Between

variable {R S T : Between}

theorem ext (h : ∀ before word after, R before word after ↔ S before word after) : R = S :=
  funext fun before => funext fun word => funext fun after => propext (h before word after)

def nothing : Between := fun _ word _ => word = []

@[simp] theorem nothing_append : nothing.append R = R := by
  refine ext fun before word after => ?_
  constructor
  · rintro ⟨_, v, rfl, rfl, h⟩
    simpa using h
  · intro h
    exact ⟨[], word, rfl, rfl, by simpa using h⟩

@[simp] theorem append_nothing : R.append nothing = R := by
  refine ext fun before word after => ?_
  constructor
  · rintro ⟨u, _, rfl, h, rfl⟩
    simpa using h
  · intro h
    exact ⟨word, [], by simp, by simpa using h, rfl⟩

theorem append_assoc' : (R.append S).append T = R.append (S.append T) :=
  ext fun _ _ _ => append_assoc

def either (R S : Between) : Between := fun before word after =>
  R before word after ∨ S before word after

def all : List Between → Between
  | [] => nothing
  | R :: Rs => R.append (all Rs)

def any (Rs : List Between) : Between := fun before word after => ∃ R ∈ Rs, R before word after

@[simp] theorem all_append (Rs Ss : List Between) : all (Rs ++ Ss) = (all Rs).append (all Ss) := by
  induction Rs with
  | nil => exact nothing_append.symm
  | cons R Rs ih => rw [List.cons_append, all, all, ih, append_assoc']

@[simp] theorem all_singleton : all [R] = R := append_nothing

@[simp] theorem any_nil {before word after : List UInt8} : ¬ any [] before word after := by
  simp [any]

@[simp] theorem any_cons {Rs : List Between} : any (R :: Rs) = either R (any Rs) := by
  refine ext fun before word after => ?_
  simp [any, either]

@[simp] theorem any_append {Rs Ss : List Between} : any (Rs ++ Ss) = either (any Rs) (any Ss) := by
  refine ext fun before word after => ?_
  simp [any, either, or_and_right, exists_or]

@[simp] theorem any_singleton : any [R] = R := by
  refine ext fun before word after => ?_
  simp [any]

theorem any_append_left {Rs : List Between} : any (Rs.map (R.append ·)) = R.append (any Rs) := by
  refine ext fun before word after => ?_
  constructor
  · rintro ⟨_, hmem, h⟩
    obtain ⟨S, hS, rfl⟩ := List.mem_map.mp hmem
    obtain ⟨u, v, rfl, hu, hv⟩ := h
    exact ⟨u, v, rfl, hu, S, hS, hv⟩
  · rintro ⟨u, v, rfl, hu, S, hS, hv⟩
    exact ⟨_, List.mem_map_of_mem hS, u, v, rfl, hu, hv⟩

end Between

def spells (d : Domain) (s : Intervals) : Between := fun _ word _ =>
  match d with
  | .byte => ∃ b : UInt8, s.contains b.toNat = true ∧ word = [b]
  | .scalar => ∃ c : Char, s.contains c.toNat = true ∧ word = Text.Utf8.encodeChar c

theorem spells_congr {d : Domain} {s t : Intervals}
    (h : ∀ n, s.contains n = true ↔ t.contains n = true) :
    spells d s = spells d t := by
  refine Between.ext fun before word after => ?_
  cases d <;> simp only [spells, h]

theorem spells_normalize (d : Domain) (s : Intervals) :
    spells d (Intervals.normalize s) = spells d s :=
  spells_congr fun _ => Intervals.contains_normalize

theorem encodeChar_of_ascii {c : Char} (h : c.toNat < 0x80) :
    Text.Utf8.encodeChar c = [UInt8.ofNat c.toNat] := by
  rw [Text.Utf8.encodeChar_eq, if_pos h]

theorem spells_of_ascii {s : Intervals} (h : Form.isAscii s = true) :
    spells .byte s = spells .scalar s := by
  have hbound : ∀ n, s.contains n = true → n < 0x80 := by
    intro n hn
    obtain ⟨i, hi, hin⟩ := Intervals.contains_iff.mp hn
    have hhi := List.all_eq_true.mp h i hi
    rw [Interval.contains_iff] at hin
    simp only [decide_eq_true_eq] at hhi
    omega
  refine Between.ext fun before word after => ?_
  constructor
  · rintro ⟨b, hb, rfl⟩
    have hlt := hbound _ hb
    have hvalid : b.toNat.isValidChar := Or.inl (by omega)
    refine ⟨Char.ofNat b.toNat, ?_, ?_⟩
    · rwa [Text.Utf8.toNat_ofNat_of_valid hvalid]
    · have hascii : (Char.ofNat b.toNat).toNat < 0x80 := by
        rwa [Text.Utf8.toNat_ofNat_of_valid hvalid]
      rw [encodeChar_of_ascii hascii, Text.Utf8.toNat_ofNat_of_valid hvalid, UInt8.ofNat_toNat]
  · rintro ⟨c, hc, rfl⟩
    have hlt := hbound _ hc
    refine ⟨UInt8.ofNat c.toNat, ?_, encodeChar_of_ascii hlt⟩
    rwa [UInt8.toNat_ofNat_of_lt' (by show c.toNat < 256; omega)]

namespace Form

def Counted (min : Nat) (max : Option Nat) : Prop :=
  min ≤ Parser.maxCount ∧ ∀ m ∈ max, min ≤ m ∧ m ≤ Parser.maxCount

/-- A form as the constructors build it: literals are not empty, classes hold bytes or characters,
and counts are in order. -/
def Sound : Form → Prop
  | .literal bs => bs ≠ []
  | .bytes s => s.Proper .byte
  | .chars s => s.Proper .scalar
  | .iterate min max _ sub => Counted min max ∧ sub.Sound
  | .group _ _ sub => sub.Sound
  | .seq a b | .alt a b => a.Sound ∧ b.Sound
  | .empty | .look _ => True

theorem Sound.regular {f : Form} (h : f.Sound) : f.Regular := by
  induction f with
  | literal bs => exact h
  | iterate min max greedy sub ih => exact ⟨fun m hm => (h.1.2 m hm).1, ih h.2⟩
  | group i name sub ih => exact ih h
  | seq a b iha ihb => exact ⟨iha h.1, ihb h.2⟩
  | alt a b iha ihb => exact ⟨iha h.1, ihb h.2⟩
  | _ => trivial

theorem matches_seq (a b : Form) : (seq a b).Matches = a.Matches.append b.Matches := rfl

theorem matches_alt (a b : Form) : (alt a b).Matches = a.Matches.either b.Matches := rfl

section Lists

variable {f : Form} {fs : List Form}

theorem matches_ofParts (fs : List Form) : (ofParts fs).Matches = Between.all (fs.map Matches) := by
  induction fs with
  | nil => rfl
  | cons f fs ih =>
    cases fs with
    | nil => exact Between.all_singleton.symm
    | cons g fs =>
      rw [ofParts, matches_seq, ih]
      · rfl
      · simp

theorem matches_parts (f : Form) : Between.all (f.parts.map Matches) = f.Matches := by
  induction f with
  | seq a b _ ihb => rw [parts, List.map_cons, Between.all, ihb, matches_seq]
  | _ => exact Between.all_singleton

theorem matches_flatMap_parts (fs : List Form) :
    Between.all ((fs.flatMap parts).map Matches) = Between.all (fs.map Matches) := by
  induction fs with
  | nil => rfl
  | cons f fs ih =>
    rw [List.flatMap_cons, List.map_append, Between.all_append, ih, matches_parts]
    rfl

theorem matches_ofBranches (fs : List Form) :
    (ofBranches fs).Matches = Between.any (fs.map Matches) := by
  induction fs with
  | nil =>
    refine Between.ext fun before word after => ?_
    simp [ofBranches, Between.any]
  | cons f fs ih =>
    cases fs with
    | nil => exact Between.any_singleton.symm
    | cons g fs =>
      rw [ofBranches, matches_alt, ih]
      · exact Between.any_cons.symm
      · simp

theorem matches_branches (f : Form) : Between.any (f.branches.map Matches) = f.Matches := by
  induction f with
  | alt a b _ ihb => rw [branches, List.map_cons, Between.any_cons, ihb, matches_alt]
  | _ => exact Between.any_singleton

theorem matches_flatMap_branches (fs : List Form) :
    Between.any ((fs.flatMap branches).map Matches) = Between.any (fs.map Matches) := by
  induction fs with
  | nil => rfl
  | cons f fs ih =>
    rw [List.flatMap_cons, List.map_append, Between.any_append, ih, matches_branches, List.map_cons,
      Between.any_cons]

theorem literal_append (bs cs : List UInt8) :
    (literal (bs ++ cs)).Matches = (literal bs).Matches.append (literal cs).Matches := by
  refine Between.ext fun before word after => ?_
  constructor
  · rintro rfl
    exact ⟨bs, cs, rfl, rfl, rfl⟩
  · rintro ⟨_, _, rfl, rfl, rfl⟩
    rfl

theorem matches_joinLiterals (fs : List Form) :
    Between.all ((joinLiterals fs).map Matches) = Between.all (fs.map Matches) := by
  induction fs with
  | nil => rfl
  | cons f fs ih =>
    rw [List.map_cons, Between.all, ← ih]
    cases f with
    | empty => exact Between.nothing_append.symm
    | literal bs =>
      rw [joinLiterals]
      split
      · next cs more hmore =>
        rw [hmore, List.map_cons, Between.all, literal_append, Between.append_assoc']
        rfl
      · rfl
    | _ => rfl

theorem matches_concat (fs : List Form) : (concat fs).Matches = Between.all (fs.map Matches) := by
  rw [concat, matches_ofParts, matches_joinLiterals, matches_flatMap_parts]

theorem sound_parts (h : f.Sound) : ∀ g ∈ f.parts, g.Sound := by
  induction f with
  | seq a b _ ihb =>
    intro g hg
    rcases List.mem_cons.mp hg with rfl | hg
    · exact h.1
    · exact ihb h.2 g hg
  | _ =>
    intro g hg
    exact List.mem_singleton.mp hg ▸ h

theorem sound_branches (h : f.Sound) : ∀ g ∈ f.branches, g.Sound := by
  induction f with
  | alt a b _ ihb =>
    intro g hg
    rcases List.mem_cons.mp hg with rfl | hg
    · exact h.1
    · exact ihb h.2 g hg
  | _ =>
    intro g hg
    exact List.mem_singleton.mp hg ▸ h

theorem sound_ofParts (h : ∀ f ∈ fs, f.Sound) : (ofParts fs).Sound := by
  induction fs with
  | nil => trivial
  | cons f fs ih =>
    have hrest := ih fun g hg => h g (List.mem_cons_of_mem _ hg)
    cases fs with
    | nil => exact h f List.mem_cons_self
    | cons g fs => exact ⟨h f List.mem_cons_self, hrest⟩

theorem sound_ofBranches (h : ∀ f ∈ fs, f.Sound) : (ofBranches fs).Sound := by
  induction fs with
  | nil => exact Intervals.endsIn_nil
  | cons f fs ih =>
    have hrest := ih fun g hg => h g (List.mem_cons_of_mem _ hg)
    cases fs with
    | nil => exact h f List.mem_cons_self
    | cons g fs => exact ⟨h f List.mem_cons_self, hrest⟩

theorem sound_joinLiterals (h : ∀ f ∈ fs, f.Sound) : ∀ f ∈ joinLiterals fs, f.Sound := by
  induction fs with
  | nil => exact h
  | cons f fs ih =>
    have hf := h f List.mem_cons_self
    have hrest := ih fun g hg => h g (List.mem_cons_of_mem _ hg)
    cases f with
    | empty => exact hrest
    | literal bs =>
      rw [joinLiterals]
      split
      · next cs more hmore =>
        rw [hmore] at hrest
        refine List.forall_mem_cons.mpr ⟨?_, fun g hg => hrest g (List.mem_cons_of_mem _ hg)⟩
        exact fun happend => hf (List.append_eq_nil_iff.mp happend).1
      · exact List.forall_mem_cons.mpr ⟨hf, hrest⟩
    | _ => exact List.forall_mem_cons.mpr ⟨hf, hrest⟩

theorem sound_concat (h : ∀ f ∈ fs, f.Sound) : (concat fs).Sound := by
  refine sound_ofParts (sound_joinLiterals fun g hg => ?_)
  obtain ⟨f, hf, hg⟩ := List.mem_flatMap.mp hg
  exact sound_parts (h f hf) g hg

end Lists

section Classes

variable {d : Domain} {s : Intervals} {f : Form} {fs : List Form}

theorem single?_eq_some {n : Nat} (h : s.single? = some n) : s = [Interval.single n] := by
  unfold Intervals.single? at h
  split at h
  · next i =>
    obtain ⟨hi, hn⟩ := Option.ite_none_right_eq_some.mp h
    obtain rfl := Option.some.inj hn
    cases i
    simp_all [Interval.single]
  · cases h

theorem spells_byte {n : Nat} (h : n ≤ 0xFF) :
    spells .byte [Interval.single n] = (literal [n.toUInt8]).Matches := by
  refine Between.ext fun before word after => ?_
  have hnat : (n.toUInt8).toNat = n := UInt8.toNat_ofNat_of_lt' (by show n < 256; omega)
  simp only [spells, Intervals.contains_singleton, Interval.contains_single, Matches]
  constructor
  · rintro ⟨b, hb, rfl⟩
    rw [← UInt8.toNat_inj.mp (hb.trans hnat.symm)]
  · rintro rfl
    exact ⟨n.toUInt8, hnat, rfl⟩

theorem spells_char (c : Char) :
    spells .scalar [Interval.single c.toNat] = (literal (Text.Utf8.encodeChar c)).Matches := by
  refine Between.ext fun before word after => ?_
  simp only [spells, Intervals.contains_singleton, Interval.contains_single, Matches]
  constructor
  · rintro ⟨e, he, rfl⟩
    rw [Char.toNat_inj.mp he]
  · rintro rfl
    exact ⟨c, rfl, rfl⟩

theorem matches_classOf (h : s.Proper d) : (classOf d s).Matches = spells d s := by
  unfold classOf
  split
  · next hempty =>
    obtain rfl := List.isEmpty_iff.mp hempty
    refine Between.ext fun before word after => iff_of_false matches_fail ?_
    cases d <;> simp [spells]
  · cases hs : s.single? with
    | none => cases d <;> rfl
    | some n =>
      obtain rfl := single?_eq_some hs
      have hn : d.Holds n := (Intervals.endsIn_cons.mp h).1.2.1
      cases d with
      | byte => exact (spells_byte hn).symm
      | scalar =>
        have hchar := spells_char (Char.ofNat n)
        rw [Text.Utf8.toNat_ofNat_of_valid hn] at hchar
        exact hchar.symm

theorem sound_classOf (h : s.Proper d) : (classOf d s).Sound := by
  unfold classOf
  split
  · exact Intervals.endsIn_nil
  · split
    · exact List.cons_ne_nil _ _
    · exact Text.Utf8.encodeChar_ne_nil _
    · exact h
    · exact h

theorem spells_append (d : Domain) (s t : Intervals) :
    spells d (s ++ t) = (spells d s).either (spells d t) := by
  refine Between.ext fun before word after => ?_
  cases d <;> simp only [spells, Between.either, Intervals.contains_append, or_and_right, exists_or]

theorem spells_mapM {α : Type} {read : Form → Option α} {members : α → Intervals}
    (hread : ∀ f a, f.Sound → read f = some a → f.Matches = spells d (members a))
    (hsound : ∀ f ∈ fs, f.Sound) {found : List α} (h : fs.mapM read = some found) :
    Between.any (fs.map Matches) = spells d (found.flatMap members) := by
  induction fs generalizing found with
  | nil =>
    obtain rfl : found = [] := by simpa using h.symm
    refine Between.ext fun before word after => iff_of_false Between.any_nil ?_
    cases d <;> simp [spells]
  | cons f fs ih =>
    rw [List.mapM_cons] at h
    obtain ⟨a, ha, h⟩ := Option.bind_eq_some_iff.mp h
    obtain ⟨rest, hrest, h⟩ := Option.bind_eq_some_iff.mp h
    obtain rfl := Option.some.inj h
    rw [List.map_cons, Between.any_cons, List.flatMap_cons, spells_append,
      hread f a (hsound f List.mem_cons_self) ha,
      ih (fun g hg => hsound g (List.mem_cons_of_mem _ hg)) hrest]

theorem char?_eq_some {n : Nat} (h : f.char? = some n) :
    ∃ c : Char, c.toNat = n ∧ f = literal (Text.Utf8.encodeChar c) := by
  cases f with
  | literal bs =>
    rw [char?] at h
    split at h
    · next c _ =>
      obtain ⟨hc, hn⟩ := Option.ite_none_right_eq_some.mp h
      exact ⟨c, Option.some.inj hn, by rw [hc]⟩
    · cases h
  | _ => cases h

theorem byte?_eq_some {n : Nat} (h : f.byte? = some n) :
    ∃ b : UInt8, b.toNat = n ∧ f = literal [b] := by
  unfold byte? at h
  split at h
  · next b => exact ⟨b, Option.some.inj h, rfl⟩
  · cases h

theorem proper_of_ascii {d e : Domain} (hascii : isAscii s = true) (h : s.Proper d) :
    s.Proper e := by
  intro i hi
  have hhi := List.all_eq_true.mp hascii i hi
  have hle := (h i hi).1
  simp only [decide_eq_true_eq] at hhi
  exact ⟨hle, Domain.holds_of_ascii (by omega), Domain.holds_of_ascii (by omega)⟩

theorem charClass?_eq_some (hf : f.Sound) (h : f.charClass? = some s) :
    f.Matches = spells .scalar s ∧ s.Proper .scalar := by
  unfold charClass? at h
  split at h
  · obtain rfl := Option.some.inj h
    exact ⟨rfl, hf⟩
  · obtain ⟨hascii, hs⟩ := Option.ite_none_right_eq_some.mp h
    obtain rfl := Option.some.inj hs
    exact ⟨spells_of_ascii hascii, proper_of_ascii hascii hf⟩
  · cases h

theorem byteClass?_eq_some (hf : f.Sound) (h : f.byteClass? = some s) :
    f.Matches = spells .byte s ∧ s.Proper .byte := by
  unfold byteClass? at h
  split at h
  · obtain rfl := Option.some.inj h
    exact ⟨rfl, hf⟩
  · obtain ⟨hascii, hs⟩ := Option.ite_none_right_eq_some.mp h
    obtain rfl := Option.some.inj hs
    exact ⟨(spells_of_ascii hascii).symm, proper_of_ascii hascii hf⟩
  · cases h

theorem forall_mem_of_mapM {α : Type} {read : Form → Option α} {P : α → Prop}
    (hread : ∀ f ∈ fs, ∀ a, read f = some a → P a) {found : List α}
    (h : fs.mapM read = some found) :
    ∀ a ∈ found, P a := by
  induction fs generalizing found with
  | nil =>
    obtain rfl : found = [] := by simpa using h.symm
    simp
  | cons f fs ih =>
    rw [List.mapM_cons] at h
    obtain ⟨a, ha, h⟩ := Option.bind_eq_some_iff.mp h
    obtain ⟨rest, hrest, h⟩ := Option.bind_eq_some_iff.mp h
    obtain rfl := Option.some.inj h
    exact List.forall_mem_cons.mpr ⟨hread f List.mem_cons_self a ha,
      ih (fun g hg => hread g (List.mem_cons_of_mem _ hg)) hrest⟩

theorem flatMap_single (ns : List Nat) :
    ns.flatMap (fun n => [Interval.single n]) = ns.map Interval.single := by
  induction ns with
  | nil => rfl
  | cons n ns ih => rw [List.flatMap_cons, ih, List.map_cons, List.singleton_append]

theorem proper_flatten {ss : List Intervals} (h : ∀ s ∈ ss, s.Proper d) :
    Intervals.Proper d ss.flatten := by
  intro i hi
  obtain ⟨s, hs, hi⟩ := List.mem_flatten.mp hi
  exact h s hs i hi

theorem merged?_eq_some (hsound : ∀ f ∈ fs, f.Sound) (h : merged? fs = some f) :
    f.Matches = Between.any (fs.map Matches) ∧ f.Sound := by
  have hclass : ∀ {d : Domain} {s : Intervals}, s.Proper d →
      spells d s = Between.any (fs.map Matches) →
      (classOf d (Intervals.normalize s)).Matches = Between.any (fs.map Matches) ∧
        (classOf d (Intervals.normalize s)).Sound := by
    intro d s hs hspells
    have hnormal := Intervals.endsIn_normalize hs
    exact ⟨by rw [matches_classOf hnormal, spells_normalize, hspells], sound_classOf hnormal⟩
  unfold merged? at h
  split at h
  · next ns hns =>
    obtain rfl := Option.some.inj h
    refine hclass (Intervals.endsIn_singles (forall_mem_of_mapM (fun f _ n hn => ?_) hns)) ?_
    · obtain ⟨c, rfl, -⟩ := char?_eq_some hn
      exact c.valid
    · rw [spells_mapM (fun f n _ hn => ?_) hsound hns, flatMap_single]
      obtain ⟨c, rfl, rfl⟩ := char?_eq_some hn
      exact (spells_char c).symm
  split at h
  · next ns hns =>
    obtain rfl := Option.some.inj h
    refine hclass (Intervals.endsIn_singles (forall_mem_of_mapM (fun f _ n hn => ?_) hns)) ?_
    · obtain ⟨b, rfl, -⟩ := byte?_eq_some hn
      have hlt := b.toNat_lt
      show b.toNat ≤ 0xFF
      omega
    · rw [spells_mapM (fun f n _ hn => ?_) hsound hns, flatMap_single]
      obtain ⟨b, rfl, rfl⟩ := byte?_eq_some hn
      have hlt := b.toNat_lt
      rw [spells_byte (by omega)]
      simp
  split at h
  · next ss hss =>
    obtain rfl := Option.some.inj h
    refine hclass (proper_flatten (forall_mem_of_mapM (fun f hf s hs => ?_) hss)) ?_
    · exact (charClass?_eq_some (hsound f hf) hs).2
    · rw [spells_mapM (fun f s hf hs => (charClass?_eq_some hf hs).1) hsound hss, List.flatMap_id']
  · obtain ⟨ss, hss, rfl⟩ := Option.map_eq_some_iff.mp h
    refine hclass (proper_flatten (forall_mem_of_mapM (fun f hf s hs => ?_) hss)) ?_
    · exact (byteClass?_eq_some (hsound f hf) hs).2
    · rw [spells_mapM (fun f s hf hs => (byteClass?_eq_some hf hs).1) hsound hss, List.flatMap_id']

theorem isSome_of_mapM {α : Type} {read : Form → Option α} {found : List α}
    (h : fs.mapM read = some found) :
    ∀ f ∈ fs, (read f).isSome = true := by
  induction fs generalizing found with
  | nil => simp
  | cons f fs ih =>
    rw [List.mapM_cons] at h
    obtain ⟨a, ha, h⟩ := Option.bind_eq_some_iff.mp h
    obtain ⟨rest, hrest, -⟩ := Option.bind_eq_some_iff.mp h
    exact List.forall_mem_cons.mpr ⟨by rw [ha]; rfl, ih hrest⟩

theorem merged?_cases (h : merged? fs = some f) :
    (∃ d s, f = classOf d s) ∧ ∀ g ∈ fs, g.groups = [] := by
  have hnone : ∀ g : Form, (g.char?.isSome = true ∨ g.byte?.isSome = true ∨
      g.charClass?.isSome = true ∨
      g.byteClass?.isSome = true) → g.groups = [] := by
    intro g hg
    cases g <;> first | rfl | simp [char?, byte?, charClass?, byteClass?] at hg
  unfold merged? at h
  split at h
  · next ns hns =>
    exact ⟨⟨_, _, (Option.some.inj h).symm⟩, fun g hg => hnone g (Or.inl (isSome_of_mapM hns g hg))⟩
  split at h
  · next ns hns =>
    exact ⟨⟨_, _, (Option.some.inj h).symm⟩,
      fun g hg => hnone g (Or.inr (Or.inl (isSome_of_mapM hns g hg)))⟩
  split at h
  · next ss hss =>
    exact ⟨⟨_, _, (Option.some.inj h).symm⟩,
      fun g hg => hnone g (Or.inr (Or.inr (Or.inl (isSome_of_mapM hss g hg))))⟩
  · obtain ⟨ss, hss, rfl⟩ := Option.map_eq_some_iff.mp h
    exact ⟨⟨_, _, rfl⟩, fun g hg => hnone g (Or.inr (Or.inr (Or.inr (isSome_of_mapM hss g hg))))⟩

end Classes

section Alternatives

variable {f : Form} {fs : List Form}

theorem commonPrefix_prefix (xs ys : List Form) :
    commonPrefix xs ys <+: xs ∧ commonPrefix xs ys <+: ys := by
  induction xs generalizing ys with
  | nil => simp [commonPrefix]
  | cons x xs ih =>
    cases ys with
    | nil => simp [commonPrefix]
    | cons y ys =>
      rw [commonPrefix]
      split
      · next h =>
        subst h
        exact ⟨List.cons_prefix_cons.mpr ⟨rfl, (ih ys).1⟩,
          List.cons_prefix_cons.mpr ⟨rfl, (ih ys).2⟩⟩
      · exact ⟨List.nil_prefix, List.nil_prefix⟩

theorem foldl_commonPrefix_prefix (common : List Form) (fs : List Form) :
    fs.foldl (fun common g => commonPrefix common g.parts) common <+: common ∧
      ∀ g ∈ fs, fs.foldl (fun common g => commonPrefix common g.parts) common <+: g.parts := by
  induction fs generalizing common with
  | nil => exact ⟨List.prefix_refl _, by simp⟩
  | cons g fs ih =>
    obtain ⟨hleft, hall⟩ := ih (commonPrefix common g.parts)
    obtain ⟨hcommon, hparts⟩ := commonPrefix_prefix common g.parts
    refine ⟨hleft.trans hcommon, fun k hk => ?_⟩
    rcases List.mem_cons.mp hk with rfl | hk
    · exact hleft.trans hparts
    · exact hall k hk

theorem sharedStart?_eq_some {common : List Form} {rests : List (List Form)}
    (h : sharedStart? fs = some (common, rests)) :
    fs ≠ [] ∧ (∀ f ∈ fs, f.parts = common ++ f.parts.drop common.length) ∧
      rests = fs.map (·.parts.drop common.length) := by
  unfold sharedStart? at h
  dsimp only at h
  split at h
  · cases h
  · next f rest =>
    split at h
    · split at h
      · cases h
      · obtain ⟨rfl, rfl⟩ := Prod.mk.inj (Option.some.inj h)
        refine ⟨List.cons_ne_nil _ _, fun g hg => ?_, rfl⟩
        obtain ⟨hleft, hall⟩ := foldl_commonPrefix_prefix f.parts rest
        have hprefix : rest.foldl (fun common g => commonPrefix common g.parts)
            f.parts <+: g.parts := by
          rcases List.mem_cons.mp hg with rfl | hg
          · exact hleft
          · exact hall g hg
        exact (List.prefix_append_drop hprefix)
    · cases h

/-- The three things that can become of alternatives: they stay side by side, they are merged into
one class, or their common start is drawn out. -/
theorem alternateWithin_cases (fuel : Nat) (fs : List Form) :
    alternateWithin fuel fs = ofBranches (fs.flatMap branches) ∨
      merged? (fs.flatMap branches) = some (alternateWithin fuel fs) ∨
      ∃ less common rests, fuel = less + 1 ∧
        sharedStart? (fs.flatMap branches) = some (common, rests) ∧
        alternateWithin fuel fs = concat (common ++ [alternateWithin less (rests.map concat)]) := by
  rw [alternateWithin]
  generalize fs.flatMap branches = gs
  split
  · exact Or.inl rfl
  · exact Or.inl rfl
  · split
    · next hmerged => exact Or.inr (Or.inl hmerged)
    · split
      · next less common rests hshared =>
          exact Or.inr (Or.inr ⟨less, common, rests, rfl, hshared, rfl⟩)
      · exact Or.inl rfl

theorem matches_sharedStart {common : List Form} {rests : List (List Form)}
    (h : sharedStart? fs = some (common, rests)) :
    (Between.all (common.map Matches)).append
      (Between.any (rests.map fun r => Between.all (r.map Matches))) =
      Between.any (fs.map Matches) := by
  obtain ⟨-, hparts, rfl⟩ := sharedStart?_eq_some h
  rw [← Between.any_append_left, List.map_map, List.map_map]
  congr 1
  refine List.map_congr_left fun f hf => ?_
  have hf := congrArg (fun gs => Between.all (gs.map Matches)) (hparts f hf)
  simp only [List.map_append, Between.all_append] at hf
  rw [← matches_parts f, hf]
  rfl

theorem sound_sharedStart {common : List Form} {rests : List (List Form)}
    (hsound : ∀ f ∈ fs, f.Sound) (h : sharedStart? fs = some (common, rests)) :
    (∀ g ∈ common, g.Sound) ∧ ∀ g ∈ rests.map concat, g.Sound := by
  obtain ⟨hne, hparts, rfl⟩ := sharedStart?_eq_some h
  have hmem : ∀ f ∈ fs, ∀ g ∈ common ++ f.parts.drop common.length, g.Sound :=
    fun f hf => hparts f hf ▸ sound_parts (hsound f hf)
  constructor
  · obtain ⟨f, hf⟩ := List.exists_mem_of_ne_nil _ hne
    exact fun g hg => hmem f hf g (List.mem_append_left _ hg)
  · intro g hg
    obtain ⟨r, hr, rfl⟩ := List.mem_map.mp hg
    obtain ⟨f, hf, rfl⟩ := List.mem_map.mp hr
    exact sound_concat fun k hk => hmem f hf k (List.mem_append_right _ hk)

theorem matches_alternateWithin (fuel : Nat) (hsound : ∀ f ∈ fs, f.Sound) :
    (alternateWithin fuel fs).Matches = Between.any (fs.map Matches) ∧
    (alternateWithin fuel fs).Sound := by
  induction fuel using Nat.strong_induction_on generalizing fs with
  | _ fuel ih =>
    have hbranches : ∀ f ∈ fs.flatMap branches, f.Sound := by
      intro g hg
      obtain ⟨f, hf, hg⟩ := List.mem_flatMap.mp hg
      exact sound_branches (hsound f hf) g hg
    rw [← matches_flatMap_branches fs]
    rcases alternateWithin_cases fuel fs with h | h | ⟨less, common, rests, rfl, hshared, h⟩
    · rw [h]
      exact ⟨matches_ofBranches _, sound_ofBranches hbranches⟩
    · exact merged?_eq_some hbranches h
    · obtain ⟨hcommon, hsoundRests⟩ := sound_sharedStart hbranches hshared
      obtain ⟨hinner, hinnerSound⟩ := ih less (Nat.lt_succ_self less) hsoundRests
      rw [h]
      refine ⟨?_, sound_concat fun g hg => ?_⟩
      · rw [matches_concat, List.map_append, Between.all_append, List.map_singleton,
          Between.all_singleton, hinner, List.map_map, ← matches_sharedStart hshared]
        congr 2
        exact List.map_congr_left fun r _ => matches_concat r
      · rcases List.mem_append.mp hg with hg | hg
        · exact hcommon g hg
        · exact List.mem_singleton.mp hg ▸ hinnerSound

theorem matches_alternate (hsound : ∀ f ∈ fs, f.Sound) :
    (alternate fs).Matches = Between.any (fs.map Matches) := (matches_alternateWithin _ hsound).1

theorem sound_alternate (hsound : ∀ f ∈ fs, f.Sound) : (alternate fs).Sound :=
  (matches_alternateWithin _ hsound).2

end Alternatives

section Repetition

variable {f : Form} {before word after : List UInt8}

theorem power_of_empty {R : Between} (hempty : ∀ b w a, R b w a → w = []) (n : Nat) :
    R.power n before word after ↔ word = [] ∧ (n = 0 ∨ R before [] after) := by
  induction n generalizing before word with
  | zero => simp
  | succ n ih =>
    constructor
    · rintro ⟨u, v, rfl, hu, hv⟩
      obtain rfl := hempty _ _ _ hu
      obtain ⟨rfl, -⟩ := ih.mp hv
      exact ⟨rfl, Or.inr hu⟩
    · rintro ⟨rfl, h⟩
      have hR := h.resolve_left (Nat.succ_ne_zero n)
      exact ⟨[], [], rfl, hR, ih.mpr ⟨rfl, Or.inr (by simpa using hR)⟩⟩

theorem times_of_empty {R : Between} (hempty : ∀ b w a, R b w a → w = []) {min : Nat}
    {max : Option Nat} (hle : ∀ m ∈ max, min ≤ m) :
    R.times min max before word after ↔ word = [] ∧ (min = 0 ∨ R before [] after) := by
  constructor
  · rintro ⟨n, hmin, -, h⟩
    obtain ⟨rfl, hor⟩ := (power_of_empty hempty n).mp h
    exact ⟨rfl, hor.imp_left fun hn => by omega⟩
  · rintro ⟨rfl, h⟩
    exact ⟨min, Nat.le_refl min, hle, (power_of_empty hempty min).mpr ⟨rfl, h⟩⟩

theorem utf8Length_pos (n : Nat) : 0 < utf8Length n := by
  unfold utf8Length
  split_ifs <;> omega

theorem eq_nil_of_maxLength (hmax : f.maxLength = some 0) (h : f.Matches before word after) :
    word = [] := by
  induction f generalizing before word after with
  | empty => exact h
  | look l => exact h.1
  | literal bs =>
    exact List.eq_nil_of_length_eq_zero ((congrArg List.length h).trans (Option.some.inj hmax))
  | bytes s =>
    rw [maxLength] at hmax
    split at hmax <;> simp at hmax
  | chars s =>
    obtain ⟨i, -, hi⟩ := Option.map_eq_some_iff.mp hmax
    exact absurd hi (utf8Length_pos _).ne'
  | iterate min max greedy sub ih =>
    obtain ⟨n, -, hn, h⟩ := h
    cases max with
    | none => cases hmax
    | some m =>
      cases hsub : sub.maxLength with
      | none => simp [maxLength, hsub] at hmax
      | some k =>
        simp only [maxLength, hsub, Option.some.injEq, Nat.mul_eq_zero] at hmax
        rcases hmax with rfl | rfl
        · exact ((power_of_empty (fun _ _ _ => ih hsub) n).mp h).1
        · obtain rfl := Nat.le_zero.mp (hn 0 rfl)
          exact h
  | group i name sub ih => exact ih hmax h
  | seq a b iha ihb =>
    obtain ⟨u, v, rfl, hu, hv⟩ := h
    rw [maxLength] at hmax
    cases ha : a.maxLength with
    | none => simp [ha, add?] at hmax
    | some m =>
      cases hb : b.maxLength with
      | none => simp [ha, hb, add?] at hmax
      | some n =>
        simp only [ha, hb, add?, Option.some.injEq, Nat.add_eq_zero_iff] at hmax
        rw [iha (hmax.1 ▸ ha) hu, ihb (hmax.2 ▸ hb) hv]
        rfl
  | alt a b iha ihb =>
    rw [maxLength] at hmax
    cases ha : a.maxLength with
    | none => simp [ha] at hmax
    | some m =>
      cases hb : b.maxLength with
      | none => simp [ha, hb] at hmax
      | some n =>
        simp only [ha, hb, Option.some.injEq, Nat.max_eq_zero_iff] at hmax
        rcases h with h | h
        · exact iha (hmax.1 ▸ ha) h
        · exact ihb (hmax.2 ▸ hb) h

theorem matches_collapse (min : Nat) (max : Option Nat) (greedy : Bool) (sub : Form) :
    (if min = 0 ∧ max = some 0 then empty else if min = 1 ∧ max = some 1 then sub
      else iterate min max greedy sub).Matches = sub.Matches.times min max := by
  refine Between.ext fun before word after => ?_
  split
  · next h =>
    obtain ⟨rfl, rfl⟩ := h
    exact (Between.times_exact.trans Between.power_zero).symm
  split
  · next h =>
    obtain ⟨rfl, rfl⟩ := h
    exact (Between.times_exact.trans Between.power_one).symm
  · rfl

theorem iterated_eq (min : Nat) (max : Option Nat) (greedy : Bool) (sub : Form) :
    ∃ lo hi, iterated min max greedy sub =
        (if lo = 0 ∧ hi = some 0 then empty else if lo = 1 ∧ hi = some 1 then sub
          else iterate lo hi greedy sub) ∧
      ((lo = min ∧ hi = max) ∨ (sub.maxLength = some 0 ∧ lo = Nat.min min 1 ∧
        hi = some ((max.map (Nat.min · 1)).getD 1))) := by
  cases hempty : (sub.maxLength == some 0) with
  | false => exact ⟨min, max, by simp [iterated, hempty], Or.inl ⟨rfl, rfl⟩⟩
  | true =>
    exact ⟨_, _, by simp only [iterated, hempty, if_true], Or.inr ⟨eq_of_beq hempty, rfl, rfl⟩⟩

theorem counted_once {min : Nat} {max : Option Nat} (h : Counted min max) :
    Counted (Nat.min min 1) (some ((max.map (Nat.min · 1)).getD 1)) := by
  have hone : 1 ≤ Parser.maxCount := by decide
  refine ⟨(Nat.min_le_right _ _).trans hone, fun m hm => ?_⟩
  obtain rfl := Option.some.inj hm
  cases max with
  | none => exact ⟨Nat.min_le_right _ _, hone⟩
  | some k =>
    have hk := (h.2 k rfl).1
    simp only [Option.map_some, Option.getD_some]
    exact ⟨min_le_min_right 1 hk, (Nat.min_le_right _ _).trans hone⟩

theorem matches_iterated {min : Nat} {max : Option Nat} (hcount : Counted min max) (greedy : Bool)
    (sub : Form) : (iterated min max greedy sub).Matches = sub.Matches.times min max := by
  obtain ⟨lo, hi, h, ⟨rfl, rfl⟩ | ⟨hempty, hlo, hhi⟩⟩ := iterated_eq min max greedy sub
  · rw [h, matches_collapse]
  · rw [h, matches_collapse]
    have hword : ∀ b w a, sub.Matches b w a → w = [] := fun _ _ _ => eq_nil_of_maxLength hempty
    have hzero : lo = 0 ↔ min = 0 := by
      have hmin : lo = Min.min min 1 := hlo
      omega
    refine Between.ext fun before word after => ?_
    rw [times_of_empty hword fun m hm => (hcount.2 m hm).1, times_of_empty hword ?_, hzero]
    intro m hm
    exact ((hlo ▸ hhi ▸ counted_once hcount : Counted lo hi).2 m hm).1

theorem sound_iterated {min : Nat} {max : Option Nat} (hcount : Counted min max) (greedy : Bool)
    {sub : Form} (hsub : sub.Sound) : (iterated min max greedy sub).Sound := by
  obtain ⟨lo, hi, h, hor⟩ := iterated_eq min max greedy sub
  have hcounted : Counted lo hi := by
    rcases hor with ⟨rfl, rfl⟩ | ⟨-, rfl, rfl⟩
    · exact hcount
    · exact counted_once hcount
  rw [h]
  split
  · trivial
  split
  · exact hsub
  · exact ⟨hcounted, hsub⟩

end Repetition

end Form

end Keypad.Pattern
