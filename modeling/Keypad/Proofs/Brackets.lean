import Keypad.Proofs.Tokens
import Keypad.Proofs.Written
/-!
Reading a class in square brackets back from its written form. Its intervals come one after the
other, and neighbours come as two members, so what is read holds the same numbers.
-/
namespace Keypad.Pattern

open Keypad.Charset

def pieces (i : Interval) : Intervals :=
  if i.lo = i.hi then [Interval.single i.lo]
  else if i.lo + 1 = i.hi then [Interval.single i.lo, Interval.single i.hi]
  else [i]

theorem contains_pieces {i : Interval} {n : Nat} :
    (pieces i).contains n = true ↔ i.contains n = true := by
  unfold pieces
  simp only [Interval.contains_iff]
  split
  · rw [Intervals.contains_singleton, Interval.contains_single]
    omega
  split
  · rw [Intervals.contains_cons, Intervals.contains_singleton, Interval.contains_single,
      Interval.contains_single]
    omega
  · rw [Intervals.contains_singleton, Interval.contains_iff]

theorem contains_flatMap_pieces {s : Intervals} {n : Nat} :
    Intervals.contains (s.flatMap pieces) n = true ↔ s.contains n = true := by
  induction s with
  | nil => rfl
  | cons i s ih =>
    simp [contains_pieces, ih]

/-- A member of a class that stands for an interval, written with characters of which `P` holds. -/
inductive Item (P : Literal → Prop) : Interval → ClassExpr → Prop
  | literal (l : Literal) (h : P l) : Item P (Interval.single l.char.toNat) (.literal l)
  | range (span : Span) (lo hi : Literal) (hlo : P lo) (hhi : P hi) :
    Item P ⟨lo.char.toNat, hi.char.toNat⟩ (.range span lo hi)

section Sets

variable {P : Literal → Prop} {i : Interval} {e : ClassExpr}

def Literal.Allowed (l : Literal) : Prop := l.isByte = true ∨ l.char.toNat < 0x80

theorem Flags.member_plain_iff {l : Literal} {n : Nat} :
    Flags.plain.member l = .ok n ↔ n = l.char.toNat ∧ l.Allowed := by
  have hunicode : ¬ Flags.plain.unicode = true := Bool.false_ne_true
  unfold Flags.member
  constructor
  · intro h
    split at h
    · next hor => exact ⟨(Except.ok.inj h).symm, hor.resolve_left hunicode⟩
    · cases h
  · rintro ⟨rfl, hallowed⟩
    exact if_pos (Or.inr hallowed)

variable {Q : Nat → Prop} (hP : ∀ l, P l → (l.Allowed ↔ Q l.char.toNat))
include hP

theorem Item.classSet_iff {t : Intervals} (h : Item P i e) :
    Flags.plain.classSet e = .ok t ↔ t = [i] ∧ Q i.lo ∧ Q i.hi := by
  cases h with
  | literal l h =>
    constructor
    · intro ht
      obtain ⟨n, hn, ht⟩ := Except.bind_eq_ok.mp ht
      obtain rfl := Except.ok.inj ht
      obtain ⟨rfl, hallowed⟩ := Flags.member_plain_iff.mp hn
      exact ⟨rfl, (hP l h).mp hallowed, (hP l h).mp hallowed⟩
    · rintro ⟨rfl, hQ, -⟩
      exact Except.bind_eq_ok.mpr ⟨_, Flags.member_plain_iff.mpr ⟨rfl, (hP l h).mpr hQ⟩, rfl⟩
  | range span lo hi hlo hhi =>
    constructor
    · intro ht
      obtain ⟨a, ha, ht⟩ := Except.bind_eq_ok.mp ht
      obtain ⟨b, hb, ht⟩ := Except.bind_eq_ok.mp ht
      obtain rfl := Except.ok.inj ht
      obtain ⟨rfl, hallowedLo⟩ := Flags.member_plain_iff.mp ha
      obtain ⟨rfl, hallowedHi⟩ := Flags.member_plain_iff.mp hb
      exact ⟨rfl, (hP lo hlo).mp hallowedLo, (hP hi hhi).mp hallowedHi⟩
    · rintro ⟨rfl, hQlo, hQhi⟩
      exact Except.bind_eq_ok.mpr ⟨_, Flags.member_plain_iff.mpr ⟨rfl, (hP lo hlo).mpr hQlo⟩,
        Except.bind_eq_ok.mpr ⟨_, Flags.member_plain_iff.mpr ⟨rfl, (hP hi hhi).mpr hQhi⟩, rfl⟩⟩

theorem classSets_items {is : Intervals} {es : List ClassExpr} (h : List.Forall₂ (Item P) is es) :
    (∀ t, Flags.plain.classSets es = .ok t → ∀ n, t.contains n = true ↔ is.contains n = true) ∧
      ((∃ t, Flags.plain.classSets es = .ok t) ↔ ∀ i ∈ is, Q i.lo ∧ Q i.hi) := by
  induction h with
  | nil =>
    refine ⟨fun t ht => ?_, fun _ => by simp, fun _ => ⟨[], rfl⟩⟩
    obtain rfl := Except.ok.inj ht
    simp
  | @cons i e is es h _ ih =>
    obtain ⟨hsame, hreads⟩ := ih
    refine ⟨fun t ht n => ?_, ⟨?_, fun hall => ?_⟩⟩
    · obtain ⟨a, ha, ht⟩ := Except.bind_eq_ok.mp ht
      obtain ⟨b, hb, ht⟩ := Except.bind_eq_ok.mp ht
      obtain rfl := Except.ok.inj ht
      obtain ⟨rfl, -⟩ := (h.classSet_iff hP).mp ha
      rw [Intervals.contains_union, hsame b hb n, Intervals.contains_singleton,
        Intervals.contains_cons]
    · rintro ⟨t, ht⟩
      obtain ⟨a, ha, ht⟩ := Except.bind_eq_ok.mp ht
      obtain ⟨b, hb, -⟩ := Except.bind_eq_ok.mp ht
      exact List.forall_mem_cons.mpr ⟨((h.classSet_iff hP).mp ha).2, hreads.mp ⟨b, hb⟩⟩
    · obtain ⟨hi, his⟩ := List.forall_mem_cons.mp hall
      obtain ⟨b, hb⟩ := hreads.mpr his
      exact ⟨_, Except.bind_eq_ok.mpr ⟨_, (h.classSet_iff hP).mpr ⟨rfl, hi⟩,
        Except.bind_eq_ok.mpr ⟨b, hb, rfl⟩⟩⟩

theorem classSet_toExpr {m : Parser.Members} {is : Intervals}
    (h : List.Forall₂ (Item P) is m.items.reverse) :
    (∀ t, Flags.plain.classSet m.toExpr = .ok t → ∀ n, t.contains n = true ↔ is.contains n = true) ∧
      ((∃ t, Flags.plain.classSet m.toExpr = .ok t) ↔ ∀ i ∈ is, Q i.lo ∧ Q i.hi) := by
  unfold Parser.Members.toExpr
  split
  · next heq =>
    rw [heq] at h
    obtain rfl := List.forall₂_nil_right_iff.mp h
    refine ⟨fun t ht => ?_, fun _ => by simp, fun _ => ⟨[], rfl⟩⟩
    obtain rfl := Except.ok.inj ht
    simp
  · next e heq =>
    rw [heq] at h
    obtain ⟨i, is', hi, his, rfl⟩ := List.forall₂_cons_right_iff.mp h
    obtain rfl := List.forall₂_nil_right_iff.mp his
    refine ⟨fun t ht => ?_, ?_⟩
    · obtain ⟨rfl, -⟩ := (hi.classSet_iff hP).mp ht
      exact fun n => Iff.rfl
    · rw [List.forall_mem_singleton]
      exact ⟨fun ⟨t, ht⟩ => ((hi.classSet_iff hP).mp ht).2,
        fun hQ => ⟨_, (hi.classSet_iff hP).mpr ⟨rfl, hQ⟩⟩⟩
  · exact classSets_items hP h

end Sets

namespace Parser

def classSigns : List Char := ['[', ']', '-', '&', '~', '^']

structure MemberText (P : Literal → Prop) (n : Nat) (text : List Char) : Prop where
  head : ∃ ch, text.head? = some ch ∧ ch ∉ classSigns
  reads : ∀ rest k, ∃ l m, classPrimitive false ⟨text ++ rest, k⟩ = .ok (.literal l, ⟨rest, m⟩) ∧
    l.char.toNat = n ∧ P l

theorem MemberText.cons {P : Literal → Prop} {n : Nat} {text : List Char}
    (h : MemberText P n text) :
    ∃ ch tail, text = ch :: tail ∧ ch ∉ classSigns := by
  obtain ⟨ch, hch, hnot⟩ := h.head
  obtain ⟨tail, rfl⟩ := List.head?_eq_some_iff.mp hch
  exact ⟨ch, tail, rfl, hnot⟩

theorem ne_dash_of_not_sign {ch : Char} (h : ch ∉ classSigns) : ch ≠ '-' := by
  rintro rfl
  exact h (by decide)

theorem memberText_char (c : Char) : MemberText (·.isByte = false) c.toNat (Printer.char c) := by
  by_cases hmeta : Printer.isMeta c = true
  · rw [Printer.char, if_pos hmeta]
    exact ⟨⟨'\\', rfl, by decide⟩, fun rest k =>
      ⟨_, _, escape_meta (isMeta_iff.mp hmeta) false rest k, rfl, rfl⟩⟩
  · rw [Printer.char, if_neg hmeta]
    have hnot : c ∉ metas := fun h => hmeta (isMeta_iff.mpr h)
    constructor
    · refine ⟨c, rfl, fun hmem => hnot ?_⟩
      simp only [classSigns, List.mem_cons, List.not_mem_nil, or_false] at hmem
      rcases hmem with rfl | rfl | rfl | rfl | rfl | rfl <;> decide
    · intro rest k
      refine ⟨⟨⟨k, k + 1⟩, c, false⟩, k + 1, ?_, rfl, rfl⟩
      show classPrimitive false ⟨c :: rest, k⟩ = _
      unfold classPrimitive
      split
      · next heq =>
        obtain rfl := Option.some.inj heq
        exact absurd (by decide) hnot
      · next heq =>
        obtain rfl := Option.some.inj heq
        rfl
      · next heq => cases heq

theorem memberText_byte {b : Nat} (h : b ≤ 0xFF) :
    MemberText Literal.Allowed b (Printer.classByte b) := by
  have hvalid : b.isValidChar := Or.inl (by omega)
  have hb : (Char.ofNat b).toNat = b := Text.Utf8.toNat_ofNat_of_valid hvalid
  by_cases hplain : Printer.isPlainByte b = true
  · rw [Printer.classByte, if_pos hplain]
    have hchar := memberText_char (Char.ofNat b)
    rw [hb] at hchar
    refine ⟨hchar.head, fun rest k => ?_⟩
    obtain ⟨l, m, hl, hn, -⟩ := hchar.reads rest k
    simp only [Printer.isPlainByte, Bool.and_eq_true, decide_eq_true_eq] at hplain
    exact ⟨l, m, hl, hn, Or.inr (by omega)⟩
  · rw [Printer.classByte, if_neg hplain]
    refine ⟨⟨'\\', rfl, by decide⟩, fun rest k => ?_⟩
    obtain ⟨span, m, hp⟩ := primitive_hexByte (show b < 0x100 by omega) rest k
    exact ⟨_, m, hp, hb, Or.inl rfl⟩

section Body

variable {P : Literal → Prop} (opening : Nat)

theorem classRange_member {n : Nat} {text rest : List Char} (h : MemberText P n text) {x : Char}
    (hx : rest.head? = some x) (hdash : x ≠ '-') (k : Nat) :
    ∃ e m, classRange false opening ⟨text ++ rest, k⟩ = .ok (e, ⟨rest, m⟩) ∧
      Item P (Interval.single n) e := by
  obtain ⟨l, m, hl, rfl, hP⟩ := h.reads rest k
  refine ⟨.literal l, m, ?_, .literal l hP⟩
  have hend : (Cursor.skip false ⟨rest, m⟩).atEnd = false := by
    cases rest with
    | nil => cases hx
    | cons y rest => rfl
  unfold classRange
  rw [hl]
  simp only [bind, Except.bind]
  rw [hend, if_neg (by simp), if_pos (Or.inl _)]
  · rfl
  · show rest.head? ≠ some '-'
    rw [hx]
    simpa using hdash

theorem classRange_range {lo hi : Nat} {first second : List Char} (hfirst : MemberText P lo first)
    (hsecond : MemberText P hi second) (hle : lo ≤ hi) (rest : List Char) (k : Nat) :
    ∃ e m, classRange false opening ⟨first ++ '-' :: (second ++ rest), k⟩ = .ok (e, ⟨rest, m⟩) ∧
      Item P ⟨lo, hi⟩ e := by
  obtain ⟨l, m, hl, rfl, hP⟩ := hfirst.reads ('-' :: (second ++ rest)) k
  obtain ⟨l', m', hl', rfl, hP'⟩ := hsecond.reads rest (m + 1)
  obtain ⟨ch, second, rfl, hch⟩ := hsecond.cons
  simp only [classSigns, List.mem_cons, List.not_mem_nil, or_false, not_or] at hch
  rw [List.cons_append] at hl hl' ⊢
  refine ⟨.range ⟨l.span.start, l'.span.stop⟩ l l', m', ?_, .range _ l l' hP hP'⟩
  have hend : (⟨ch :: (second ++ rest), m + 1⟩ : Cursor).atEnd = false := rfl
  have hskip : Cursor.skip false ⟨'-' :: ch :: (second ++ rest), m⟩ =
      ⟨'-' :: ch :: (second ++ rest), m⟩ := rfl
  have hpeek : Cursor.peek false ⟨'-' :: ch :: (second ++ rest), m⟩ = some ch := rfl
  have hnext : Cursor.next false ⟨'-' :: ch :: (second ++ rest), m⟩ =
      ⟨ch :: (second ++ rest), m + 1⟩ := rfl
  have hdash : ¬ (Cursor.head? ⟨'-' :: ch :: (second ++ rest), m⟩ ≠ some '-' ∨ some ch = some ']' ∨
      some ch = some '-') := by
    simp [Cursor.head?, hch]
  unfold classRange
  rw [hl]
  simp only [bind, Except.bind]
  rw [hskip, hpeek, hnext, hend, if_neg (by simp [Cursor.atEnd]), if_neg hdash,
    if_neg (by simp), hl']
  simp only [Primitive.toRangeEnd]
  rw [if_pos (show l.char ≤ l'.char from hle)]
  rfl

def bodyText (member : Nat → List Char) (s : Intervals) (rest : List Char) : List Char :=
  s.flatMap (Printer.interval member) ++ ']' :: rest

theorem head?_bodyText {member : Nat → List Char} {s : Intervals}
    (h : ∀ i ∈ s, MemberText P i.lo (member i.lo)) (rest : List Char) :
    ∃ ch, (bodyText member s rest).head? = some ch ∧
      (s = [] ∧ ch = ']' ∨ s ≠ [] ∧ ch ∉ classSigns) := by
  cases s with
  | nil => exact ⟨']', rfl, Or.inl ⟨rfl, rfl⟩⟩
  | cons i s =>
    obtain ⟨ch, text, htext, hnot⟩ := (h i List.mem_cons_self).cons
    refine ⟨ch, ?_, Or.inr ⟨by simp, hnot⟩⟩
    rw [bodyText, List.flatMap_cons, Printer.interval, htext]
    split_ifs <;> rfl

theorem classBody_item {ch : Char} {rest : List Char} {k : Nat} (hch : ch ∉ classSigns)
    {e : ClassExpr} {c : Cursor} (h : classRange false opening ⟨ch :: rest, k⟩ = .ok (e, c))
    (fuel : Nat) (m : Members) :
    classBody false opening (fuel + 1) none m ⟨ch :: rest, k⟩ =
      classBody false opening fuel none (m.push e) c := by
  simp only [classSigns, List.mem_cons, List.not_mem_nil, or_false, not_or] at hch
  obtain ⟨hopen, hclose, hdash, hand, htilde, -⟩ := hch
  have hskip : Cursor.skip false ⟨ch :: rest, k⟩ = ⟨ch :: rest, k⟩ := rfl
  have hnone : setOperation? ⟨ch :: rest, k⟩ = none := by
    rw [setOperation?, take?_of_head hand "&&" rfl, take?_of_head hdash "--" rfl,
      take?_of_head htilde "~~" rfl]
    rfl
  rw [classBody, hskip]
  dsimp only [Cursor.head?, List.head?_cons]
  split
  · next heq => cases heq
  · next heq => exact absurd (Option.some.inj heq) hopen
  · next heq => exact absurd (Option.some.inj heq) hclose
  · rw [hnone, h]
    rfl

theorem classBody_member {n : Nat} {text rest : List Char} (h : MemberText P n text) {x : Char}
    (hx : rest.head? = some x) (hdash : x ≠ '-') (fuel : Nat) (m : Members) (k : Nat) :
    ∃ e k', classBody false opening (fuel + 1) none m ⟨text ++ rest, k⟩ =
      classBody false opening fuel none (m.push e) ⟨rest, k'⟩ ∧ Item P (Interval.single n) e := by
  obtain ⟨e, k', he, hitem⟩ := classRange_member opening h hx hdash k
  obtain ⟨ch, text, rfl, hnot⟩ := h.cons
  exact ⟨e, k', classBody_item opening hnot he fuel m, hitem⟩

theorem classBody_interval {member : Nat → List Char} {i : Interval} (hle : i.lo ≤ i.hi)
    (hlo : MemberText P i.lo (member i.lo)) (hhi : MemberText P i.hi (member i.hi))
    {rest : List Char} {x : Char} (hx : rest.head? = some x) (hdash : x ≠ '-') (fuel : Nat)
    (m : Members) (k : Nat) :
    ∃ (m' : Members) (fuel' k' : Nat) (items : List ClassExpr), fuel ≤ fuel' ∧
      classBody false opening (fuel + 1 + 1) none m ⟨Printer.interval member i ++ rest, k⟩ =
        classBody false opening fuel' none m' ⟨rest, k'⟩ ∧
      m'.items.reverse = m.items.reverse ++ items ∧ List.Forall₂ (Item P) (pieces i) items := by
  rw [Printer.interval, pieces]
  by_cases hone : i.lo = i.hi
  · rw [if_pos hone, if_pos hone]
    obtain ⟨e, k₁, hread, he⟩ := classBody_member opening hlo hx hdash (fuel + 1) m k
    exact ⟨m.push e, fuel + 1, k₁, [e], Nat.le_succ _, hread, List.reverse_cons, .cons he .nil⟩
  rw [if_neg hone, if_neg hone]
  by_cases htwo : i.lo + 1 = i.hi
  · rw [if_pos htwo, if_pos htwo, List.append_assoc]
    obtain ⟨y, text, htext, hnot⟩ := hhi.cons
    have hy : (member i.hi ++ rest).head? = some y := by
      rw [htext, List.cons_append, List.head?_cons]
    obtain ⟨e, k₁, hread, he⟩ :=
      classBody_member opening hlo hy (ne_dash_of_not_sign hnot) (fuel + 1) m k
    obtain ⟨e', k₂, hread', he'⟩ := classBody_member opening hhi hx hdash fuel (m.push e) k₁
    exact ⟨(m.push e).push e', fuel, k₂, [e, e'], Nat.le_refl _, hread.trans hread',
      by simp [Members.push], .cons he (.cons he' .nil)⟩
  · rw [if_neg htwo, if_neg htwo, List.append_assoc, List.cons_append]
    obtain ⟨e, k₁, hread, he⟩ := classRange_range opening hlo hhi hle rest k
    obtain ⟨y, text, htext, hnot⟩ := hlo.cons
    rw [htext] at hread ⊢
    exact ⟨m.push e, fuel + 1, k₁, [e], Nat.le_succ _,
      classBody_item opening hnot hread (fuel + 1) m, List.reverse_cons, .cons he .nil⟩

theorem classBody_bodyText {member : Nat → List Char} {s : Intervals}
    (h : ∀ i ∈ s, i.lo ≤ i.hi ∧ MemberText P i.lo (member i.lo) ∧ MemberText P i.hi (member i.hi))
    (rest : List Char) {fuel : Nat} (hfuel : 2 * s.length < fuel) (m : Members) (k : Nat) :
    ∃ (m' : Members) (k' : Nat) (items : List ClassExpr),
      classBody false opening fuel none m ⟨bodyText member s rest, k⟩ =
        .ok (m'.toExpr, ⟨rest, k'⟩) ∧
      m'.items.reverse = m.items.reverse ++ items ∧
      List.Forall₂ (Item P) (s.flatMap pieces) items := by
  induction s generalizing fuel m k with
  | nil =>
    cases fuel with
    | zero => omega
    | succ fuel => exact ⟨m, k + 1, [], rfl, by simp, .nil⟩
  | cons i s ih =>
    obtain ⟨⟨hle, hlo, hhi⟩, hs⟩ := List.forall_mem_cons.mp h
    obtain ⟨x, hx, hcases⟩ := head?_bodyText (fun i hi => (hs i hi).2.1) rest
    have hdash : x ≠ '-' := by
      rcases hcases with ⟨-, rfl⟩ | ⟨-, hnot⟩
      · decide
      · exact ne_dash_of_not_sign hnot
    obtain ⟨fuel, rfl⟩ : ∃ f, fuel = f + 1 + 1 :=
      ⟨fuel - 2, by rw [List.length_cons] at hfuel; omega⟩
    rw [List.length_cons] at hfuel
    obtain ⟨m₁, fuel', k₁, es, hmore, hread, hes, hitem⟩ :=
      classBody_interval opening hle hlo hhi hx hdash fuel m k
    obtain ⟨m', k', items, hbody, hitems, hall⟩ := ih hs (show 2 * s.length < fuel' by omega) m₁ k₁
    have htext : bodyText member (i :: s) rest =
        Printer.interval member i ++ bodyText member s rest := by
      simp [bodyText]
    refine ⟨m', k', es ++ items, ?_, by rw [hitems, hes, List.append_assoc],
      List.rel_append hitem hall⟩
    rw [htext]
    exact hread.trans hbody

theorem length_lt_classBody {member : Nat → List Char} {s : Intervals}
    (h : ∀ i ∈ s, MemberText P i.lo (member i.lo)) :
    s.length < (Printer.classBody member s).length := by
  have hle : s.length ≤ (s.flatMap (Printer.interval member)).length := by
    induction s with
    | nil => simp
    | cons i s ih =>
      obtain ⟨hi, hs⟩ := List.forall_mem_cons.mp h
      obtain ⟨ch, text, htext, -⟩ := hi.cons
      have hpos : 0 < (member i.lo).length := by simp [htext]
      have hinterval : 0 < (Printer.interval member i).length := by
        unfold Printer.interval
        split_ifs
        · exact hpos
        all_goals
          rw [List.length_append]
          omega
      have := ih hs
      rw [List.flatMap_cons, List.length_append, List.length_cons]
      omega
  simp only [Printer.classBody, List.length_cons, List.length_append]
  omega

theorem classOpening_member {x : Char} (hx : x ∉ classSigns) (text : List Char) (k : Nat) :
    classOpening false ⟨'[' :: x :: text, k⟩ =
      .ok (false, Members.emptyAt ⟨x :: text, k + 1⟩, ⟨x :: text, k + 1⟩) := by
  simp only [classSigns, List.mem_cons, List.not_mem_nil, or_false, not_or] at hx
  obtain ⟨-, hclose, hdash, -, -, hcaret⟩ := hx
  have hnext : Cursor.next false ⟨'[' :: x :: text, k⟩ = ⟨x :: text, k + 1⟩ := rfl
  have hend : (⟨x :: text, k + 1⟩ : Cursor).atEnd = false := rfl
  have hhead : Cursor.head? ⟨x :: text, k + 1⟩ = some x := rfl
  have hdashes : ∀ f, leadingDashes false k (f + 1) (Members.emptyAt ⟨x :: text, k + 1⟩)
      ⟨x :: text, k + 1⟩ =
      .ok (Members.emptyAt ⟨x :: text, k + 1⟩, ⟨x :: text, k + 1⟩) := by
    intro f
    rw [leadingDashes, hhead, if_neg (by simpa using hdash)]
  have hneg : ¬ (some x = some '^') := by simpa using hcaret
  unfold classOpening
  dsimp only
  rw [hnext, hend, if_neg (by simp), hhead]
  simp only [hneg, if_false, decide_false]
  rw [hend, if_neg (by simp)]
  simp only [bind, Except.bind]
  rw [hdashes]
  dsimp only
  rw [hhead, if_neg (by simp [hclose])]
  rfl

theorem bracketed_classBody (member : Nat → List Char) {s : Intervals} (hs : s ≠ [])
    (h : ∀ i ∈ s, i.lo ≤ i.hi ∧ MemberText P i.lo (member i.lo) ∧ MemberText P i.hi (member i.hi))
    (rest : List Char) (k : Nat) :
    ∃ (m : Members) (span : Span) (k' : Nat),
      bracketed false (2 * (Printer.classBody member s ++ rest).length + 2)
        ⟨Printer.classBody member s ++ rest, k⟩ = .ok (span, false, m.toExpr, ⟨rest, k'⟩) ∧
      List.Forall₂ (Item P) (s.flatMap pieces) m.items.reverse := by
  have hlength := length_lt_classBody fun i hi => (h i hi).2.1
  have hfuel : 2 * s.length < 2 * (Printer.classBody member s ++ rest).length + 1 := by
    rw [List.length_append]
    omega
  have htext : Printer.classBody member s ++ rest = '[' :: bodyText member s rest := by
    simp [Printer.classBody, bodyText]
  rw [htext] at hfuel ⊢
  obtain ⟨x, hx, hcases⟩ := head?_bodyText (fun i hi => (h i hi).2.1) rest
  have hnot : x ∉ classSigns := (hcases.resolve_left fun hnil => hs hnil.1).2
  obtain ⟨text, hcons⟩ := List.head?_eq_some_iff.mp hx
  have hopening := classOpening_member hnot text k
  rw [← hcons] at hopening
  obtain ⟨m, k', items, hbody, hitems, hall⟩ := classBody_bodyText k h rest hfuel
    (Members.emptyAt ⟨bodyText member s rest, k + 1⟩) (k + 1)
  refine ⟨m, ⟨k, k'⟩, k', ?_, ?_⟩
  · rw [bracketed, hopening]
    simp only [bind, Except.bind]
    rw [hbody]
    rfl
  · rw [hitems]
    simpa [Members.emptyAt] using hall

end Body

section Reading

theorem reads_bracketed {text : List Char} {P : Expr → Prop} (hhead : text.head? = some '[')
    (h : ∀ (rest : List Char) (k : Nat), ∃ span body m,
      bracketed false (2 * (text ++ rest).length + 2) ⟨text ++ rest, k⟩ =
        .ok (span, false, body, ⟨rest, m⟩) ∧
        P (.bracketed span false body)) :
    Reads text Anything P := by
  have hne : text ≠ [] := by
    rintro rfl
    cases hhead
  refine reads_of_step hne fun s rest hverbose htext _ => ?_
  obtain ⟨span, body, m, hbody, hP⟩ := h rest s.cursor.offset
  have hcursor : s.cursor = ⟨text ++ rest, s.cursor.offset⟩ := by rw [← htext]
  have hhead' : s.cursor.head? = some '[' := by
    rw [hcursor, Cursor.head?, List.head?_append_of_ne_nil _ hne, hhead]
  refine ⟨.bracketed span false body, ⟨rest, m⟩, ?_, rfl, hP⟩
  unfold step
  rw [hhead', htext, hverbose, hcursor, hbody]
  rfl

def IsClass (readable : Prop) (s : Intervals) (e : Expr) : Prop :=
  ∃ span body, e = .bracketed span false body ∧ Inside readable s body

theorem forall_pieces_iff {Q : Nat → Prop} {s : Intervals} :
    (∀ j ∈ s.flatMap pieces, Q j.lo ∧ Q j.hi) ↔ ∀ i ∈ s, Q i.lo ∧ Q i.hi := by
  simp only [List.mem_flatMap, forall_exists_index, and_imp]
  have hpieces : ∀ i : Interval, (∀ j ∈ pieces i, Q j.lo ∧ Q j.hi) ↔ Q i.lo ∧ Q i.hi := by
    intro i
    unfold pieces
    split_ifs with hone htwo
    · simp [Interval.single, hone]
    · simp [Interval.single]
    · simp
  exact ⟨fun h i hi => (hpieces i).mp fun j hj => h j i hi hj,
    fun h j i hi hj => (hpieces i).mpr (h i hi) j hj⟩

theorem isClass_of_items {P : Literal → Prop} {Q : Nat → Prop}
    (hP : ∀ l, P l → (l.Allowed ↔ Q l.char.toNat)) {s : Intervals} {m : Members} (span : Span)
    (h : List.Forall₂ (Item P) (s.flatMap pieces) m.items.reverse) :
    IsClass (∀ i ∈ s, Q i.lo ∧ Q i.hi) s (.bracketed span false m.toExpr) := by
  obtain ⟨hsame, hreads⟩ := classSet_toExpr hP h
  exact ⟨span, m.toExpr, rfl, fun t ht n => (hsame t ht n).trans contains_flatMap_pieces,
    hreads.trans forall_pieces_iff⟩

theorem reads_byteClass {s : Intervals} (hs : s ≠ []) (h : s.Proper .byte) :
    Reads (Printer.classBody Printer.classByte s) Anything (IsClass True s) := by
  refine reads_bracketed rfl fun rest k => ?_
  have hmember : ∀ i ∈ s, i.lo ≤ i.hi ∧ MemberText Literal.Allowed i.lo (Printer.classByte i.lo) ∧
      MemberText Literal.Allowed i.hi (Printer.classByte i.hi) := fun i hi =>
    ⟨(h i hi).1, memberText_byte (h i hi).2.1, memberText_byte (h i hi).2.2⟩
  obtain ⟨m, span, k', hread, hitems⟩ := bracketed_classBody Printer.classByte hs hmember rest k
  obtain ⟨span', body, heq, hinside⟩ :=
    isClass_of_items (Q := fun _ => True) (fun l hl => iff_true_intro hl) span hitems
  exact ⟨span, m.toExpr, k', hread, span', body, heq, hinside.same, hinside.reads.trans (by simp)⟩

theorem reads_charClass {s : Intervals} (hs : s ≠ []) (h : s.Proper .scalar) :
    Reads (Printer.classBody (fun n => Printer.char (Char.ofNat n)) s) Anything
      (IsClass (Form.isAscii s = true) s) := by
  refine reads_bracketed rfl fun rest k => ?_
  have hchar : ∀ n : Nat, n.isValidChar →
      MemberText (·.isByte = false) n (Printer.char (Char.ofNat n)) := by
    intro n hn
    have hmember := memberText_char (Char.ofNat n)
    rwa [Text.Utf8.toNat_ofNat_of_valid hn] at hmember
  have hmember : ∀ i ∈ s, i.lo ≤ i.hi ∧
      MemberText (·.isByte = false) i.lo (Printer.char (Char.ofNat i.lo)) ∧
      MemberText (·.isByte = false) i.hi (Printer.char (Char.ofNat i.hi)) := fun i hi =>
    ⟨(h i hi).1, hchar _ (h i hi).2.1, hchar _ (h i hi).2.2⟩
  obtain ⟨m, span, k', hread, hitems⟩ :=
    bracketed_classBody (fun n => Printer.char (Char.ofNat n)) hs hmember rest k
  obtain ⟨span', body, heq, hinside⟩ :=
    isClass_of_items (Q := (· < 0x80))
      (fun l (hl : l.isByte = false) => by simp [Literal.Allowed, hl]) span hitems
  have hascii : (∀ i ∈ s, i.lo < 0x80 ∧ i.hi < 0x80) ↔ Form.isAscii s = true := by
    rw [Form.isAscii, List.all_eq_true]
    refine forall₂_congr fun i hi => ?_
    have := (h i hi).1
    simp only [decide_eq_true_eq]
    omega
  exact ⟨span, m.toExpr, k', hread, span', body, heq, hinside.same, hinside.reads.trans hascii⟩

theorem reads_emptyClass : Reads Printer.emptyClass Anything (IsClass True []) := by
  refine reads_bracketed rfl fun rest k => ?_
  refine ⟨⟨k, k + 6⟩, .operation ⟨k + 1, k + 5⟩ .intersection
    (.literal ⟨⟨k + 1, k + 2⟩, 'a', false⟩)
    (.literal ⟨⟨k + 4, k + 5⟩, 'b', false⟩), k + 6, rfl, _, _, rfl, fun t ht => ?_,
    iff_true_intro ⟨_, rfl⟩⟩
  obtain rfl := Except.ok.inj ht
  have hnone : Intervals.inter [Interval.single 0x61] [Interval.single 0x62] = [] := by
    rw [Intervals.inter_cons, if_pos (by decide), Intervals.inter]
    rfl
  show ∀ n, Intervals.contains
    (Intervals.inter [Interval.single 0x61] [Interval.single 0x62]) n = true ↔ _
  rw [hnone]
  exact fun n => Iff.rfl

end Reading

end Parser

end Keypad.Pattern
