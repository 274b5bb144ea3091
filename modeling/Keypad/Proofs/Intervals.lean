import Mathlib.Tactic
import Keypad.Charset.Intervals
/-!
Membership in lists of intervals. Joining and intersecting keep the set that a list stands for, and
their results are ascending.
-/
namespace Keypad.Charset

theorem Interval.contains_iff {i : Interval} {n : Nat} :
    i.contains n = true ↔ i.lo ≤ n ∧ n ≤ i.hi := by
  simp [Interval.contains]

@[simp] theorem Interval.contains_single {m n : Nat} :
    (Interval.single m).contains n = true ↔ n = m := by
  rw [contains_iff]
  simp only [Interval.single]
  omega

theorem Interval.contains_inter? {i j : Interval} {n : Nat} :
    (∃ k ∈ i.inter? j, k.contains n = true) ↔ i.contains n = true ∧ j.contains n = true := by
  simp only [Interval.inter?, contains_iff]
  constructor
  · rintro ⟨k, hk, hn⟩
    split at hk
    · cases hk
      simp only at hn
      omega
    · cases hk
  · intro h
    have hle : max i.lo j.lo ≤ min i.hi j.hi := by omega
    exact ⟨⟨max i.lo j.lo, min i.hi j.hi⟩, by simp [hle], by simp only; omega⟩

theorem Interval.inter?_eq_some {i j k : Interval} (h : i.inter? j = some k) :
    k.lo = max i.lo j.lo ∧ k.hi = min i.hi j.hi ∧ k.lo ≤ k.hi := by
  simp only [Interval.inter?] at h
  split at h
  · cases h
    exact ⟨rfl, rfl, by assumption⟩
  · cases h

namespace Intervals

variable {s t : Intervals} {n : Nat}

theorem contains_iff : contains s n = true ↔ ∃ i ∈ s, i.contains n = true := by
  simp [contains]

@[simp] theorem contains_nil : contains [] n = false := rfl

@[simp] theorem contains_cons {i : Interval} :
    contains (i :: s) n = true ↔ i.contains n = true ∨ contains s n = true := by
  simp [contains]

@[simp] theorem contains_append :
    contains (s ++ t) n = true ↔ contains s n = true ∨ contains t n = true := by
  simp [contains]

@[simp] theorem contains_singleton {i : Interval} :
    contains [i] n = true ↔ i.contains n = true := by
  simp [contains]

def Ascending (s : Intervals) : Prop := s.Pairwise fun i j => i.hi < j.lo

@[simp] theorem ascending_single (i : Interval) : Ascending [i] := List.pairwise_singleton _ i

abbrev Sorted (s : Intervals) : Prop := s.Pairwise fun i j => i.lo ≤ j.lo

theorem contains_join {cur : Interval} {s : List Interval} (h : Sorted (cur :: s)) :
    contains (join cur s) n = true ↔ cur.contains n = true ∨ contains s n = true := by
  induction s generalizing cur with
  | nil => simp [join, contains]
  | cons i s ih =>
    obtain ⟨hcur, hs⟩ := List.pairwise_cons.mp h
    obtain ⟨hi, hrest⟩ := List.pairwise_cons.mp hs
    have hlo := hcur i List.mem_cons_self
    rw [join]
    split
    · have hjoined : Sorted (⟨cur.lo, max cur.hi i.hi⟩ :: s) :=
        List.pairwise_cons.mpr ⟨fun j hj => hcur j (List.mem_cons_of_mem _ hj), hrest⟩
      rw [ih hjoined, contains_cons]
      simp only [Interval.contains_iff]
      constructor
      · rintro (hn | hn)
        · by_cases h : n ≤ cur.hi
          · exact Or.inl ⟨hn.1, h⟩
          · exact Or.inr (Or.inl (by omega))
        · exact Or.inr (Or.inr hn)
      · rintro (hn | hn | hn)
        · exact Or.inl (by omega)
        · exact Or.inl (by omega)
        · exact Or.inr hn
    · simp [ih hs]

theorem le_lo_of_mem_join {cur : Interval} {s : List Interval} (h : Sorted (cur :: s)) :
    ∀ i ∈ join cur s, cur.lo ≤ i.lo := by
  induction s generalizing cur with
  | nil => simp [join]
  | cons i s ih =>
    obtain ⟨hcur, hs⟩ := List.pairwise_cons.mp h
    have hlo := hcur i List.mem_cons_self
    rw [join]
    split
    · exact ih (List.pairwise_cons.mpr
        ⟨fun j hj => hcur j (List.mem_cons_of_mem _ hj), (List.pairwise_cons.mp hs).2⟩)
    · intro j hj
      rcases List.mem_cons.mp hj with rfl | hj
      · exact Nat.le_refl _
      · exact Nat.le_trans hlo (ih hs j hj)

theorem ascending_join {cur : Interval} {s : List Interval} (h : Sorted (cur :: s)) :
    Ascending (join cur s) := by
  induction s generalizing cur with
  | nil => exact ascending_single cur
  | cons i s ih =>
    obtain ⟨hcur, hs⟩ := List.pairwise_cons.mp h
    rw [join]
    split
    · exact ih (List.pairwise_cons.mpr
        ⟨fun j hj => hcur j (List.mem_cons_of_mem _ hj), (List.pairwise_cons.mp hs).2⟩)
    · refine List.pairwise_cons.mpr ⟨fun j hj => ?_, ih hs⟩
      have := le_lo_of_mem_join hs j hj
      omega

section Normalize

def before (i j : Interval) : Bool := i.lo < j.lo || (i.lo == j.lo && i.hi ≤ j.hi)

theorem before_iff {i j : Interval} :
    before i j = true ↔ i.lo < j.lo ∨ i.lo = j.lo ∧ i.hi ≤ j.hi := by
  simp [before]

theorem sorted_mergeSort (s : List Interval) : Sorted (s.mergeSort before) := by
  have hpair : (s.mergeSort before).Pairwise fun i j => before i j = true := by
    apply List.pairwise_mergeSort
    · intro i j k hij hjk
      rw [before_iff] at *
      omega
    · intro i j
      rw [Bool.or_eq_true, before_iff, before_iff]
      omega
  exact hpair.imp fun h => by
    rw [before_iff] at h
    omega

theorem contains_mergeSort (s : List Interval) :
    contains (s.mergeSort before) n = true ↔ contains s n = true := by
  simp [contains_iff, List.mem_mergeSort]

theorem normalize_eq (s : List Interval) :
    normalize s = match s.mergeSort before with
      | [] => []
      | i :: rest => join i rest := rfl

@[simp] theorem contains_normalize : contains (normalize s) n = true ↔ contains s n = true := by
  rw [← contains_mergeSort s, normalize_eq]
  have hsorted := sorted_mergeSort s
  cases hs : s.mergeSort before with
  | nil => rfl
  | cons i rest =>
    rw [hs] at hsorted
    rw [contains_join hsorted, contains_cons]

theorem ascending_normalize (s : Intervals) : Ascending (normalize s) := by
  rw [normalize_eq]
  have hsorted := sorted_mergeSort s
  cases hs : s.mergeSort before with
  | nil => exact List.Pairwise.nil
  | cons i rest => exact ascending_join (hs ▸ hsorted)

@[simp] theorem contains_union :
    contains (union s t) n = true ↔ contains s n = true ∨ contains t n = true := by
  simp [union]

end Normalize

theorem inter_cons {i j : Interval} : inter (i :: s) (j :: t) =
    (i.inter? j).toList ++ if i.hi < j.hi then inter s (j :: t) else inter (i :: s) t := by
  rw [inter]
  cases i.inter? j <;> rfl

@[simp] theorem inter_nil_right : inter s [] = [] := by cases s <;> simp [inter]

theorem inter_induction {motive : Intervals → Intervals → Prop} (left : ∀ t, motive [] t)
    (right : ∀ s, motive s [])
    (both : ∀ i s j t, (i.hi < j.hi → motive s (j :: t)) → (¬ i.hi < j.hi → motive (i :: s) t) →
      motive (i :: s) (j :: t)) (s t : Intervals) : motive s t := by
  induction hn : s.length + t.length using Nat.strong_induction_on generalizing s t with
  | _ n ih =>
    cases s with
    | nil => exact left t
    | cons i s =>
      cases t with
      | nil => exact right _
      | cons j t =>
        simp only [List.length_cons] at hn
        exact both i s j t (fun _ => ih _ (by simp; omega) _ _ rfl)
          (fun _ => ih _ (by simp; omega) _ _ rfl)

theorem mem_inter {k : Interval} (h : k ∈ inter s t) : ∃ i ∈ s, ∃ j ∈ t, i.inter? j = some k := by
  induction s, t using inter_induction with
  | left t => simp [inter] at h
  | right s => simp at h
  | both i s j t ihs iht =>
    rw [inter_cons, List.mem_append] at h
    rcases h with h | h
    · exact ⟨i, List.mem_cons_self, j, List.mem_cons_self, by simpa using h⟩
    · split at h
      · next hlt =>
        obtain ⟨i', hi, j', hj, hk⟩ := ihs hlt h
        exact ⟨i', List.mem_cons_of_mem _ hi, j', hj, hk⟩
      · next hlt =>
        obtain ⟨i', hi, j', hj, hk⟩ := iht hlt h
        exact ⟨i', hi, j', List.mem_cons_of_mem _ hj, hk⟩

theorem contains_of_ascending {j : Interval} (ht : Ascending (j :: t)) (hn : n ≤ j.hi) :
    contains (j :: t) n = true ↔ j.contains n = true := by
  rw [contains_cons, or_iff_left]
  intro h
  obtain ⟨k, hk, hkn⟩ := contains_iff.mp h
  have := (List.pairwise_cons.mp ht).1 k hk
  rw [Interval.contains_iff] at hkn
  omega

theorem contains_inter (hs : Ascending s) (ht : Ascending t) :
    contains (inter s t) n = true ↔ contains s n = true ∧ contains t n = true := by
  induction s, t using inter_induction with
  | left t => simp [inter]
  | right s => simp
  | both i s j t ihs iht =>
    have hhead : contains (i.inter? j).toList n = true ↔
        i.contains n = true ∧ j.contains n = true := by
      rw [← Interval.contains_inter?, contains_iff]
      simp
    rw [inter_cons, contains_append, hhead]
    split
    · next hlt =>
      rw [ihs hlt hs.of_cons ht, contains_cons (s := s)]
      by_cases hi : i.contains n = true
      · have hn := Interval.contains_iff.mp hi
        have := contains_of_ascending ht (n := n) (by omega)
        grind
      · grind
    · next hlt =>
      rw [iht hlt hs ht.of_cons, contains_cons (s := t)]
      by_cases hj : j.contains n = true
      · have hn := Interval.contains_iff.mp hj
        have := contains_of_ascending hs (n := n) (by omega)
        grind
      · grind

theorem ascending_inter (hs : Ascending s) (ht : Ascending t) : Ascending (inter s t) := by
  induction s, t using inter_induction with
  | left t => simp [inter, Ascending]
  | right s => simp [Ascending]
  | both i s j t ihs iht =>
    rw [inter_cons]
    refine List.pairwise_append.mpr ⟨?_, ?_, ?_⟩
    · cases i.inter? j <;> simp
    · split
      · next hlt => exact ihs hlt hs.of_cons ht
      · next hlt => exact iht hlt hs ht.of_cons
    · intro k hk l hl
      have hk := Interval.inter?_eq_some (Option.mem_toList.mp hk)
      split at hl
      · obtain ⟨i', hi, j', hj, hl⟩ := mem_inter hl
        have hl := Interval.inter?_eq_some hl
        have := (List.pairwise_cons.mp hs).1 i' hi
        omega
      · obtain ⟨i', hi, j', hj, hl⟩ := mem_inter hl
        have hl := Interval.inter?_eq_some hl
        have := (List.pairwise_cons.mp ht).1 j' hj
        omega

end Intervals

end Keypad.Charset
