import Keypad.Proofs.Code
import Keypad.Proofs.Intervals
import Keypad.Proofs.Utf8
/-!
The trie of a set of characters holds their UTF-8 strings and no others. A digit of a number picks
the branch, and what the digit leaves of the set is spelled by the rest of the string.
-/
namespace Keypad.Automaton.Trie

open Keypad.Charset Keypad.Text.Utf8

structure Fits (width : Nat) (s : Intervals) : Prop where
  ascending : s.Ascending
  filled : ∀ i ∈ s, i.lo ≤ i.hi
  below : ∀ k, s.contains k = true → k < width

theorem Fits.ne_nil_iff {width : Nat} {s : Intervals} (h : Fits width s) :
    s ≠ [] ↔ ∃ k, s.contains k = true := by
  constructor
  · intro hs
    obtain ⟨i, rest, rfl⟩ := List.exists_cons_of_ne_nil hs
    refine ⟨i.lo, Intervals.contains_cons.mpr (Or.inl ?_)⟩
    exact Interval.contains_iff.mpr ⟨Nat.le_refl _, h.filled i List.mem_cons_self⟩
  · rintro ⟨k, hk⟩ rfl
    simp at hk

section Slice

variable {s : Intervals} {base width k : Nat}

theorem bounds_of_mem_slice {i : Interval} (h : i ∈ slice s base width) : ∃ j ∈ s,
    i.lo = max j.lo base - base ∧ i.hi = min j.hi (base + width - 1) - base ∧
      max j.lo base ≤ min j.hi (base + width - 1) := by
  obtain ⟨k, hk, rfl⟩ := List.mem_map.mp h
  obtain ⟨j, hj, i', hi, hk⟩ := Intervals.mem_inter hk
  obtain rfl := List.mem_singleton.mp hi
  have := Interval.inter?_eq_some hk
  exact ⟨j, hj, by simp [this.1], by simp [this.2.1], by rw [← this.1, ← this.2.1]; exact this.2.2⟩

theorem contains_slice (hs : s.Ascending) (hw : 0 < width) :
    (slice s base width).contains k = true ↔ k < width ∧ s.contains (base + k) = true := by
  have hmem : ∀ i ∈ s.inter [⟨base, base + width - 1⟩], base ≤ i.lo ∧ i.lo ≤ i.hi := by
    intro i hi
    obtain ⟨j, -, i', hi', hk⟩ := Intervals.mem_inter hi
    obtain rfl := List.mem_singleton.mp hi'
    have := Interval.inter?_eq_some hk
    simp only at this
    omega
  have hinter : (s.inter [⟨base, base + width - 1⟩]).contains (base + k) = true ↔
      k < width ∧ s.contains (base + k) = true := by
    rw [Intervals.contains_inter hs (Intervals.ascending_single _), Intervals.contains_singleton,
      Interval.contains_iff]
    simp only
    constructor
    · rintro ⟨h, h'⟩
      exact ⟨by omega, h⟩
    · rintro ⟨h, h'⟩
      exact ⟨h', by omega⟩
  rw [← hinter, slice, Intervals.contains_iff, Intervals.contains_iff]
  constructor
  · rintro ⟨i', hi', hk⟩
    obtain ⟨i, hi, rfl⟩ := List.mem_map.mp hi'
    have := hmem i hi
    rw [Interval.contains_iff] at hk
    simp only at hk
    exact ⟨i, hi, Interval.contains_iff.mpr (by omega)⟩
  · rintro ⟨i, hi, hk⟩
    have := hmem i hi
    rw [Interval.contains_iff] at hk
    exact ⟨_, List.mem_map_of_mem hi, Interval.contains_iff.mpr (by simp only; omega)⟩

theorem fits_slice (hs : s.Ascending) (hw : 0 < width) : Fits width (slice s base width) where
  ascending := by
    refine List.pairwise_map.mpr ?_
    refine (Intervals.ascending_inter hs (Intervals.ascending_single _)).imp_of_mem ?_
    intro i j hi hj hlt
    obtain ⟨j', -, i', hi', hk⟩ := Intervals.mem_inter hi
    obtain rfl := List.mem_singleton.mp hi'
    have := Interval.inter?_eq_some hk
    simp only at this ⊢
    omega
  filled := by
    intro i hi
    obtain ⟨j, -, hlo, hhi, hle⟩ := bounds_of_mem_slice hi
    omega
  below := fun k hk => ((contains_slice hs hw).mp hk).1

end Slice

section Groups

variable {s : Intervals} {first count width : Nat}

def Grouped (groups : List Digits) (d : Nat) (r : Intervals) : Prop :=
  ∃ g ∈ groups, d ∈ g.digits ∧ g.remainders = r

theorem grouped_addDigit {groups : List Digits} {d e : Nat} {r q : Intervals} :
    Grouped (addDigit d r groups) e q ↔ (e = d ∧ r = q) ∨ Grouped groups e q := by
  unfold Grouped
  fun_induction addDigit d r groups with
  | case1 => simp
  | case2 g rest hr =>
    constructor
    · rintro ⟨g', hg', he, hq⟩
      rcases List.mem_cons.mp hg' with rfl | hg'
      · rcases List.mem_append.mp he with he | he
        · exact Or.inr ⟨g, List.mem_cons_self, he, hr.trans hq⟩
        · exact Or.inl ⟨List.mem_singleton.mp he, hq⟩
      · exact Or.inr ⟨g', List.mem_cons_of_mem _ hg', he, hq⟩
    · rintro (⟨rfl, rfl⟩ | ⟨g', hg', he, hq⟩)
      · exact ⟨_, List.mem_cons_self, by simp, rfl⟩
      · rcases List.mem_cons.mp hg' with rfl | hg'
        · exact ⟨_, List.mem_cons_self, List.mem_append_left _ he, hr.symm.trans hq⟩
        · exact ⟨g', List.mem_cons_of_mem _ hg', he, hq⟩
  | case3 g rest hne ih =>
    simp only [List.mem_cons, exists_eq_or_imp, ih]
    exact or_left_comm

theorem grouped_digitsOf {d : Nat} {r : Intervals} :
    Grouped (digitsOf s first count width) d r ↔
      first ≤ d ∧ d < first + count ∧ slice s (d * width) width = r ∧ r ≠ [] := by
  unfold digitsOf
  induction count with
  | zero =>
    simp only [List.range_zero, List.foldl_nil, Grouped, List.not_mem_nil, false_and, exists_false,
      false_iff]
    omega
  | succ count ih =>
    rw [List.range_succ, List.foldl_append, List.foldl_cons, List.foldl_nil]
    simp only
    by_cases he : (slice s ((first + count) * width) width).isEmpty = true
    · rw [if_pos he, ih]
      constructor
      · rintro ⟨h, h', h''⟩
        exact ⟨h, by omega, h''⟩
      · rintro ⟨h, h', rfl, hne⟩
        refine ⟨h, ?_, rfl, hne⟩
        by_contra hd
        obtain rfl : d = first + count := by omega
        exact hne (by simpa using he)
    · rw [if_neg he, grouped_addDigit, ih]
      constructor
      · rintro (⟨rfl, rfl⟩ | ⟨h, h', h''⟩)
        · exact ⟨by omega, by omega, rfl, by simpa using he⟩
        · exact ⟨h, by omega, h''⟩
      · rintro ⟨h, h', rfl, hne⟩
        by_cases hd : d = first + count
        · exact Or.inl ⟨hd, by rw [hd]⟩
        · exact Or.inr ⟨h, by omega, rfl, hne⟩

theorem spells_ofDigits {base : Nat} {tl : Intervals → Trie} {groups : List Digits}
    {word : List UInt8} : (ofDigits base tl groups).Spells word ↔ ∃ d r, Grouped groups d r ∧
      ∃ b : UInt8, ∃ v, b.toNat = base + d ∧ word = b :: v ∧ (tl r).Spells v := by
  unfold ofDigits Grouped
  induction groups with
  | nil => simp [Spells]
  | cons g rest ih =>
    have hset : ∀ n, (Intervals.normalize
        (g.digits.map fun d => Interval.single (base + d))).contains n = true ↔
        ∃ d ∈ g.digits, n = base + d := by
      intro n
      rw [Intervals.contains_normalize, Intervals.contains_iff]
      simp
    rw [List.foldr_cons, Spells, ih]
    constructor
    · rintro (⟨b, v, hb, rfl, hv⟩ | ⟨d, r, ⟨g', hg', hd⟩, h⟩)
      · obtain ⟨d, hd, hb⟩ := (hset _).mp hb
        exact ⟨d, _, ⟨g, List.mem_cons_self, hd, rfl⟩, b, v, hb, rfl, hv⟩
      · exact ⟨d, r, ⟨g', List.mem_cons_of_mem _ hg', hd⟩, h⟩
    · rintro ⟨d, r, ⟨g', hg', hd, hr⟩, b, v, hb, rfl, hv⟩
      rcases List.mem_cons.mp hg' with rfl | hg'
      · exact Or.inl ⟨b, v, (hset _).mpr ⟨d, hd, hb⟩, rfl, hr ▸ hv⟩
      · exact Or.inr ⟨d, r, ⟨g', hg', hd, hr⟩, b, v, hb, rfl, hv⟩

end Groups

theorem UInt8.eq_ofNat_iff {b : UInt8} {n : Nat} (hn : n < 256) :
    b = UInt8.ofNat n ↔ b.toNat = n := by
  constructor
  · rintro rfl
    simpa using Nat.mod_eq_of_lt hn
  · intro h
    rw [← h, UInt8.ofNat_toNat]

theorem spells_digits {n base first count : Nat} {s : Intervals} {word : List UInt8}
    (hs : s.Ascending) (htails : ∀ {r : Intervals} {v : List UInt8}, Fits (64 ^ n) r →
      ((tails n r).Spells v ↔ ∃ k, r.contains k = true ∧ v = tailBytes n k))
    (hdigits : ∀ k, s.contains k = true → first ≤ k / 64 ^ n ∧ k / 64 ^ n < first + count ∧
      base + k / 64 ^ n < 256) :
    (ofDigits base (tails n) (digitsOf s first count (64 ^ n))).Spells word ↔
      ∃ k, s.contains k = true ∧ word = spelling base n k := by
  have hpos : 0 < 64 ^ n := Nat.pow_pos (by omega)
  rw [spells_ofDigits]
  simp only [grouped_digitsOf]
  constructor
  · rintro ⟨d, r, ⟨-, -, rfl, -⟩, b, v, hb, rfl, hv⟩
    obtain ⟨k, hk, rfl⟩ := (htails (fits_slice hs hpos)).mp hv
    obtain ⟨hlt, hk⟩ := (contains_slice hs hpos).mp hk
    refine ⟨d * 64 ^ n + k, hk, ?_⟩
    rw [spelling, Nat.mul_comm, Nat.mul_add_div hpos, Nat.div_eq_of_lt hlt, Nat.add_zero,
      Nat.mul_add_mod, Nat.mod_eq_of_lt hlt, ← hb, UInt8.ofNat_toNat]
  · rintro ⟨k, hk, rfl⟩
    obtain ⟨hfirst, hlast, hbyte⟩ := hdigits k hk
    have hin : (slice s (k / 64 ^ n * 64 ^ n) (64 ^ n)).contains (k % 64 ^ n) = true :=
      (contains_slice hs hpos).mpr ⟨Nat.mod_lt _ hpos, by rwa [Nat.mul_comm, Nat.div_add_mod]⟩
    have hfits : Fits (64 ^ n) (slice s (k / 64 ^ n * 64 ^ n) (64 ^ n)) := fits_slice hs hpos
    refine ⟨k / 64 ^ n, _, ⟨hfirst, hlast, rfl, hfits.ne_nil_iff.mpr ⟨_, hin⟩⟩, _, _, ?_, rfl,
      (htails hfits).mpr ⟨_, hin, rfl⟩⟩
    exact (UInt8.eq_ofNat_iff hbyte).mp rfl

theorem spells_tails {n : Nat} {s : Intervals} {word : List UInt8} (hs : Fits (64 ^ n) s) :
    (tails n s).Spells word ↔ ∃ k, s.contains k = true ∧ word = tailBytes n k := by
  induction n generalizing s word with
  | zero =>
    simp only [tails, tailBytes]
    split
    · next he =>
      obtain rfl : s = [] := by simpa using he
      simp [Spells]
    · next he =>
      obtain ⟨k, hk⟩ := hs.ne_nil_iff.mp (by simpa using he)
      simp only [Spells]
      constructor
      · intro h
        exact ⟨k, hk, h⟩
      · rintro ⟨_, _, h⟩
        exact h
  | succ n ih =>
    refine spells_digits hs.ascending ih fun k hk => ?_
    have hlt : k / 64 ^ n < 64 := Nat.div_lt_of_lt_mul (by rw [← Nat.pow_succ]; exact hs.below k hk)
    exact ⟨Nat.zero_le _, by omega, by omega⟩

theorem spells_spelled {s : Intervals} {lo hi base n : Nat} {word : List UInt8}
    (hs : s.Ascending) (hbase : base + hi / 64 ^ n < 256) :
    (spelled s lo hi base n).Spells word ↔
      ∃ k, s.contains k = true ∧ lo ≤ k ∧ k ≤ hi ∧ word = spelling base n k := by
  have hsub : ∀ k, (s.inter [⟨lo, hi⟩]).contains k = true ↔
      s.contains k = true ∧ lo ≤ k ∧ k ≤ hi := by
    intro k
    rw [Intervals.contains_inter hs (Intervals.ascending_single _), Intervals.contains_singleton,
      Interval.contains_iff]
  have hasc := Intervals.ascending_inter hs (Intervals.ascending_single ⟨lo, hi⟩)
  rw [spelled, Nat.pow_eq, spells_digits hasc spells_tails]
  · simp only [hsub, and_assoc]
  · intro k hk
    obtain ⟨-, hlo, hhi⟩ := (hsub k).mp hk
    have hdlo : lo / 64 ^ n ≤ k / 64 ^ n := Nat.div_le_div_right hlo
    have hdhi : k / 64 ^ n ≤ hi / 64 ^ n := Nat.div_le_div_right hhi
    omega

theorem spells_bytes {s : Intervals} {word : List UInt8} (hs : ∀ k, s.contains k = true → k < 256) :
    (if s.isEmpty then none else branch s done none).Spells word ↔
      ∃ k, s.contains k = true ∧ word = [UInt8.ofNat k] := by
  split
  · next he =>
    obtain rfl : s = [] := by simpa using he
    simp [Spells]
  · simp only [Spells, or_false]
    constructor
    · rintro ⟨b, v, hb, rfl, rfl⟩
      exact ⟨_, hb, by rw [UInt8.ofNat_toNat]⟩
    · rintro ⟨k, hk, rfl⟩
      have hb : (UInt8.ofNat k).toNat = k := (UInt8.eq_ofNat_iff (hs k hk)).mp rfl
      exact ⟨_, [], by rwa [hb], rfl, rfl⟩

def Pure : Trie → Prop
  | none => True
  | done => False
  | branch _ _ rest => rest.Pure

theorem pure_ofDigits (base : Nat) (tl : Intervals → Trie) (groups : List Digits) :
    (ofDigits base tl groups).Pure := by
  induction groups with
  | nil => trivial
  | cons g rest ih => exact ih

theorem pure_spelled (s : Intervals) (lo hi base n : Nat) : (spelled s lo hi base n).Pure :=
  pure_ofDigits _ _ _

theorem spells_append {t u : Trie} {word : List UInt8} (ht : t.Pure) :
    (t.append u).Spells word ↔ t.Spells word ∨ u.Spells word := by
  induction t with
  | none => simp [append, Spells]
  | done => exact ht.elim
  | branch set tail rest _ ih =>
    rw [append, Spells, ih ht, Spells, or_assoc]

theorem ascending_scalars : Intervals.Ascending Domain.scalars := by
  simp [Intervals.Ascending, Domain.scalars]

theorem contains_scalars {n : Nat} :
    Intervals.contains Domain.scalars n = true ↔ n.isValidChar := by
  simp only [Domain.scalars, Intervals.contains_cons, Interval.contains_iff, Nat.isValidChar,
    Intervals.contains_nil]
  simp only [Bool.false_eq_true, or_false]
  omega

theorem spells_ofScalars {s : Intervals} {word : List UInt8} : (ofScalars s).Spells word ↔
    ∃ c : Char, s.contains c.toNat = true ∧ word = encodeChar c := by
  have hasc := Intervals.ascending_inter (Intervals.ascending_normalize s) ascending_scalars
  have hmem : ∀ k, ((Intervals.normalize s).inter Domain.scalars).contains k = true ↔
      s.contains k = true ∧ k.isValidChar := by
    intro k
    rw [Intervals.contains_inter (Intervals.ascending_normalize s) ascending_scalars,
      Intervals.contains_normalize, contains_scalars]
  have hascii : ∀ k, (((Intervals.normalize s).inter Domain.scalars).inter
      [⟨0, 0x7F⟩]).contains k = true ↔
      s.contains k = true ∧ k < 0x80 := by
    intro k
    rw [Intervals.contains_inter hasc (Intervals.ascending_single _), hmem,
      Intervals.contains_singleton, Interval.contains_iff]
    simp only [Nat.isValidChar]
    constructor
    · rintro ⟨⟨h, -⟩, h'⟩
      exact ⟨h, by omega⟩
    · rintro ⟨h, h'⟩
      exact ⟨⟨h, by omega⟩, by omega⟩
  have hbyte := fun k hk => ((hascii k).mp hk).2.trans (show 0x80 < 256 by decide)
  rw [ofScalars, spells_append (by split <;> trivial), spells_bytes hbyte,
    spells_append (pure_spelled _ _ _ _ _), spells_spelled hasc (by decide),
    spells_append (pure_spelled _ _ _ _ _), spells_spelled hasc (by decide),
    spells_spelled hasc (by decide)]
  simp only [hmem, hascii]
  constructor
  · rintro (⟨k, ⟨hk, hlt⟩, rfl⟩ | ⟨k, ⟨hk, hv⟩, hlo, hhi, rfl⟩ | ⟨k, ⟨hk, hv⟩, hlo, hhi, rfl⟩ |
      ⟨k, ⟨hk, hv⟩, hlo, hhi, rfl⟩)
    · obtain ⟨c, rfl⟩ := exists_char_of_valid (n := k) (by simp only [Nat.isValidChar]; omega)
      exact ⟨c, hk, by rw [encodeChar_eq, if_pos hlt]⟩
    all_goals
      obtain ⟨c, rfl⟩ := exists_char_of_valid hv
      refine ⟨c, hk, ?_⟩
      rw [encodeChar_eq]
      split_ifs <;> first | omega | rfl
  · rintro ⟨c, hc, rfl⟩
    have hv : c.toNat.isValidChar := c.valid
    have hlt := toNat_lt_of_char c
    rw [encodeChar_eq]
    split_ifs with h1 h2 h3
    · exact Or.inl ⟨_, ⟨hc, h1⟩, rfl⟩
    · exact Or.inr (Or.inl ⟨_, ⟨hc, hv⟩, by omega, by omega, rfl⟩)
    · exact Or.inr (Or.inr (Or.inl ⟨_, ⟨hc, hv⟩, by omega, by omega, rfl⟩))
    · exact Or.inr (Or.inr (Or.inr ⟨_, ⟨hc, hv⟩, by omega, by omega, rfl⟩))

end Keypad.Automaton.Trie
