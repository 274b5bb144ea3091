import Keypad.Unicode.Property
import Keypad.Pattern.Denotation
import Keypad.Proofs.Intervals
/-!
The ends of the intervals of a set. Whatever a class is made of, its intervals run forward between
numbers of its domain, bytes or characters.
-/
namespace Keypad.Charset

namespace Domain

def Holds : Domain → Nat → Prop
  | .byte, n => n ≤ 0xFF
  | .scalar, n => n.isValidChar

variable {d : Domain} {n : Nat}

theorem Holds.le_last (h : d.Holds n) : n ≤ d.last := by
  cases d with
  | byte => exact h
  | scalar =>
    simp only [Holds, Nat.isValidChar] at h
    simp only [last]
    omega

theorem holds_of_ascii (h : n < 0x80) : d.Holds n := by
  cases d with
  | byte =>
    simp only [Holds]
    omega
  | scalar =>
    simp only [Holds, Nat.isValidChar]
    omega

end Domain

namespace Intervals

def EndsIn (P : Nat → Prop) (s : Intervals) : Prop := ∀ i ∈ s, i.lo ≤ i.hi ∧ P i.lo ∧ P i.hi

abbrev Proper (d : Domain) (s : Intervals) : Prop := EndsIn d.Holds s

variable {d : Domain} {P : Nat → Prop} {s t : Intervals}

theorem endsIn_nil : EndsIn P [] := by simp [EndsIn]

theorem endsIn_cons {i : Interval} :
    EndsIn P (i :: s) ↔ (i.lo ≤ i.hi ∧ P i.lo ∧ P i.hi) ∧ EndsIn P s := by
  simp [EndsIn]

theorem endsIn_append : EndsIn P (s ++ t) ↔ EndsIn P s ∧ EndsIn P t := by
  simp only [EndsIn, List.mem_append, or_imp]
  exact forall_and

theorem endsIn_single {n : Nat} (h : P n) : EndsIn P [Interval.single n] :=
  endsIn_cons.mpr ⟨⟨Nat.le_refl n, h, h⟩, endsIn_nil⟩

theorem endsIn_singles {ns : List Nat} (h : ∀ n ∈ ns, P n) : EndsIn P (ns.map Interval.single) := by
  intro i hi
  obtain ⟨n, hn, rfl⟩ := List.mem_map.mp hi
  exact ⟨Nat.le_refl n, h n hn, h n hn⟩

theorem endsIn_join {cur : Interval} (h : EndsIn P (cur :: s)) : EndsIn P (join cur s) := by
  induction s generalizing cur with
  | nil => exact h
  | cons i s ih =>
    obtain ⟨hcur, hrest⟩ := endsIn_cons.mp h
    obtain ⟨hi, hs⟩ := endsIn_cons.mp hrest
    rw [join]
    split
    · refine ih (endsIn_cons.mpr ⟨⟨?_, hcur.2.1, ?_⟩, hs⟩)
      · exact hcur.1.trans (Nat.le_max_left _ _)
      · rcases Nat.le_total cur.hi i.hi with hle | hle
        · rw [Nat.max_eq_right hle]
          exact hi.2.2
        · rw [Nat.max_eq_left hle]
          exact hcur.2.2
    · exact endsIn_cons.mpr ⟨hcur, ih hrest⟩

theorem endsIn_normalize (h : EndsIn P s) : EndsIn P (normalize s) := by
  have hsort : EndsIn P (s.mergeSort before) := fun i hi => h i (List.mem_mergeSort.mp hi)
  rw [normalize_eq]
  cases hs : s.mergeSort before with
  | nil => exact endsIn_nil
  | cons i rest => exact endsIn_join (hs ▸ hsort)

theorem endsIn_union (hs : EndsIn P s) (ht : EndsIn P t) : EndsIn P (s.union t) :=
  endsIn_normalize (endsIn_append.mpr ⟨hs, ht⟩)

theorem endsIn_inter (hs : EndsIn P s) (ht : EndsIn P t) : EndsIn P (s.inter t) := by
  intro k hk
  obtain ⟨i, hi, j, hj, hij⟩ := mem_inter hk
  obtain ⟨hlo, hhi, hle⟩ := Interval.inter?_eq_some hij
  refine ⟨hle, ?_, ?_⟩
  · rw [hlo]
    rcases Nat.le_total i.lo j.lo with h | h
    · exact (Nat.max_eq_right h).symm ▸ (ht j hj).2.1
    · exact (Nat.max_eq_left h).symm ▸ (hs i hi).2.1
  · rw [hhi]
    rcases Nat.le_total i.hi j.hi with h | h
    · exact (Nat.min_eq_left h).symm ▸ (hs i hi).2.2
    · exact (Nat.min_eq_right h).symm ▸ (ht j hj).2.2

theorem mem_gaps {last n : Nat} {k : Interval} (hs : ∀ i ∈ s, i.lo ≤ last)
    (hk : k ∈ gaps last n s) :
    k.lo ≤ k.hi ∧ k.hi ≤ last := by
  induction s generalizing n with
  | nil =>
    rw [gaps] at hk
    split at hk
    · obtain rfl := List.mem_singleton.mp hk
      exact ⟨‹_›, Nat.le_refl last⟩
    · cases hk
  | cons i s ih =>
    have hi := hs i List.mem_cons_self
    have hrest : ∀ j ∈ s, j.lo ≤ last := fun j hj => hs j (List.mem_cons_of_mem _ hj)
    rw [gaps] at hk
    split at hk
    · rcases List.mem_cons.mp hk with rfl | hk
      · simp only
        omega
      · exact ih hrest hk
    · exact ih hrest hk

theorem clip_holds {i k : Interval} (hle : i.lo ≤ i.hi) (hlast : i.hi ≤ d.last)
    (h : d.clip i = some k) : k.lo ≤ k.hi ∧ d.Holds k.lo ∧ d.Holds k.hi := by
  cases d with
  | byte =>
    obtain rfl := Option.some.inj h
    simp only [Domain.last] at hlast
    simp only [Domain.Holds]
    omega
  | scalar =>
    simp only [Domain.last] at hlast
    simp only [Domain.clip, Bool.and_eq_true, decide_eq_true_eq, Option.ite_none_right_eq_some,
      Option.some.injEq] at h
    obtain ⟨hkle, rfl⟩ := h
    simp only [Domain.Holds, Nat.isValidChar]
    split_ifs at hkle ⊢ <;> omega

theorem proper_complement (h : Proper d s) : Proper d (complement d s) := by
  intro k hk
  obtain ⟨i, hi, hik⟩ := List.mem_filterMap.mp hk
  obtain ⟨hle, hlast⟩ := mem_gaps (fun j hj => (h j hj).2.1.le_last) hi
  exact clip_holds hle hlast hik

theorem proper_diff (hs : Proper d s) (ht : Proper d t) : Proper d (s.diff d t) :=
  endsIn_inter hs (proper_complement ht)

theorem proper_symmDiff (hs : Proper d s) (ht : Proper d t) : Proper d (s.symmDiff d t) :=
  proper_diff (endsIn_union hs ht) (endsIn_inter hs ht)

theorem endsIn_foldAscii (hP : ∀ n < 0x80, P n) (h : EndsIn P s) : EndsIn P (foldAscii s) := by
  have hshift : ∀ base target : Nat, target + 25 < 0x80 →
      EndsIn P ((s.inter [⟨base, base + 25⟩]).map fun i =>
        ⟨i.lo - base + target, i.hi - base + target⟩) := by
    intro base target htarget k hk
    obtain ⟨i, hi, rfl⟩ := List.mem_map.mp hk
    obtain ⟨a, -, b, hb, hab⟩ := mem_inter hi
    obtain rfl := List.mem_singleton.mp hb
    obtain ⟨hlo, hhi, hle⟩ := Interval.inter?_eq_some hab
    simp only at hlo hhi
    exact ⟨by simp only; omega, hP _ (by simp only; omega), hP _ (by simp only; omega)⟩
  exact endsIn_normalize (endsIn_append.mpr ⟨endsIn_append.mpr
    ⟨h, hshift 0x61 0x41 (by omega)⟩, hshift 0x41 0x61 (by omega)⟩)

end Intervals

end Keypad.Charset

namespace Keypad.Unicode

open Keypad.Charset

variable {s : Intervals}

theorem proper_intervals (r : Row) : r.intervals.Proper .scalar := by
  intro i hi
  have hof := (List.mem_filter.mp hi).2
  simpa [Interval.isOfScalars, Domain.Holds, and_assoc] using hof

theorem proper_getD (found : Option Row) :
    ((found.map Row.intervals).getD []).Proper .scalar := by
  cases found with
  | none => exact Intervals.endsIn_nil
  | some r => exact proper_intervals r

theorem proper_category (name : String) : (category name).Proper .scalar := proper_getD _

theorem proper_binary (name : String) : (binary name).Proper .scalar := proper_getD _

theorem proper_categories (names : List String) :
    Intervals.Proper .scalar (names.flatMap category) := by
  intro i hi
  obtain ⟨name, -, hi⟩ := List.mem_flatMap.mp hi
  exact proper_category name i hi

theorem proper_wordCharacters : wordCharacters.Proper .scalar :=
  Intervals.endsIn_normalize (Intervals.endsIn_append.mpr
    ⟨Intervals.endsIn_append.mpr ⟨proper_binary _, proper_categories _⟩, proper_binary _⟩)

theorem proper_rowSet {rows : List Row} {name : String} (h : rowSet? rows name = some s) :
    s.Proper .scalar := by
  obtain ⟨r, -, rfl⟩ := Option.map_eq_some_iff.mp h
  exact proper_intervals r

theorem proper_generalCategory {name : String} (h : generalCategory? name = some s) :
    s.Proper .scalar := by
  unfold generalCategory? at h
  split at h
  · obtain rfl := Option.some.inj h
    exact Intervals.proper_complement Intervals.endsIn_nil
  · obtain rfl := Option.some.inj h
    exact Intervals.proper_complement (proper_category "cn")
  · obtain rfl := Option.some.inj h
    exact Intervals.endsIn_cons.mpr ⟨⟨Nat.zero_le _, Domain.holds_of_ascii (by decide),
      Domain.holds_of_ascii (by decide)⟩, Intervals.endsIn_nil⟩
  · split at h
    · obtain rfl := Option.some.inj h
      exact proper_intervals _
    · obtain ⟨group, -, rfl⟩ := Option.map_eq_some_iff.mp h
      exact Intervals.endsIn_normalize (proper_categories _)

theorem proper_upToAge {rows : List Row} {name : String} (h : upToAge rows name = some s) :
    s.Proper .scalar := by
  induction rows generalizing s with
  | nil => cases h
  | cons r rows ih =>
    rw [upToAge] at h
    split at h
    · obtain rfl := Option.some.inj h
      exact proper_intervals r
    · obtain ⟨t, ht, rfl⟩ := Option.map_eq_some_iff.mp h
      exact Intervals.endsIn_union (proper_intervals r) (ih ht)

theorem proper_byName {name : String} (h : byName name = .ok s) : s.Proper .scalar := by
  unfold byName at h
  extract_lets name at h
  split at h
  · next hfound =>
    obtain rfl := Except.ok.inj h
    rcases (Option.orElse_eq_some _ _ _).mp hfound with hfound | ⟨-, hfound⟩
    · exact proper_rowSet hfound
    rcases (Option.orElse_eq_some _ _ _).mp hfound with hfound | ⟨-, hfound⟩
    · exact proper_generalCategory hfound
    · exact proper_rowSet hfound
  · cases h

theorem proper_byValue {name value : String} (h : byValue name value = .ok s) :
    s.Proper .scalar := by
  rw [byValue] at h
  split at h
  · next hfound =>
    obtain rfl := Except.ok.inj h
    split at hfound
    all_goals first
      | exact proper_generalCategory (Except.ok.inj hfound)
      | exact proper_rowSet (Except.ok.inj hfound)
      | exact proper_upToAge (Except.ok.inj hfound)
      | cases hfound
  · cases h
  · cases h

theorem proper_foldCase (h : s.Proper .scalar) : (foldCase s).Proper .scalar := by
  refine Intervals.endsIn_normalize (Intervals.endsIn_append.mpr ⟨h, Intervals.endsIn_singles ?_⟩)
  intro n hn
  obtain ⟨orbit, horbit, hn⟩ := List.mem_flatMap.mp hn
  obtain ⟨raw, -, rfl⟩ := List.mem_map.mp horbit
  split at hn
  · simpa [Domain.Holds] using (List.mem_filter.mp hn).2
  · cases hn

end Keypad.Unicode
