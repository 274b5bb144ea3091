import Keypad.Proofs.Normal
/-!
What a pattern matches as it is written, read off its parts: flags are passed from left to right, a
group keeps its own, and no part is simplified. The normal form matches the same words. Word edges
are those of bytes; a pattern with Unicode ones is refused by the matcher.
-/
theorem Except.bind_eq_ok {ε α β : Type} {x : Except ε α} {f : α → Except ε β} {b : β} :
    (x >>= f) = .ok b ↔ ∃ a, x = .ok a ∧ f a = .ok b := by
  cases x with
  | error e => simp [bind, Except.bind]
  | ok a => simp [bind, Except.bind]

namespace Keypad.Pattern

open Keypad.Charset

def Literal.Sound (l : Literal) : Prop := l.isByte = true → l.char.toNat ≤ 0xFF

mutual

def ClassExpr.Sound : ClassExpr → Prop
  | .literal l => l.Sound
  | .range _ lo hi => lo.Sound ∧ hi.Sound ∧ lo.char.toNat ≤ hi.char.toNat
  | .bracketed _ _ body => body.Sound
  | .union _ items => ClassExpr.AllSound items
  | .operation _ _ lhs rhs => lhs.Sound ∧ rhs.Sound
  | .empty _ | .named _ _ _ | .property _ _ _ | .short _ _ _ => True

def ClassExpr.AllSound : List ClassExpr → Prop
  | [] => True
  | e :: rest => e.Sound ∧ ClassExpr.AllSound rest

end

mutual

/-- A pattern as it is read: bytes are bytes, ranges run forward and counts are in order. -/
def Expr.Sound : Expr → Prop
  | .literal l => l.Sound
  | .bracketed _ _ body => body.Sound
  | .iterate _ min max _ sub => Form.Counted min max ∧ sub.Sound
  | .group _ _ sub => sub.Sound
  | .alternation _ items | .concat _ items => Expr.AllSound items
  | .empty _ | .flags _ _ | .dot _ | .assertion _ _ | .property _ _ _ | .short _ _ _ => True

def Expr.AllSound : List Expr → Prop
  | [] => True
  | e :: rest => e.Sound ∧ Expr.AllSound rest

end

theorem Expr.allSound_iff {es : List Expr} : Expr.AllSound es ↔ ∀ e ∈ es, e.Sound := by
  induction es with
  | nil => simp [Expr.AllSound]
  | cons e es ih => simp [Expr.AllSound, ih]

theorem ClassExpr.allSound_iff {es : List ClassExpr} :
    ClassExpr.AllSound es ↔ ∀ e ∈ es, e.Sound := by
  induction es with
  | nil => simp [ClassExpr.AllSound]
  | cons e es ih => simp [ClassExpr.AllSound, ih]

namespace Flags

def casesOf (f : Flags) (l : Literal) : Intervals :=
  if f.caseInsensitive then f.foldCase [Interval.single l.char.toNat]
  else [Interval.single l.char.toNat]

def literalWords (f : Flags) (l : Literal) : Between := fun before word after =>
  if !f.unicode ∧ l.isByte ∧ 0x7F < l.char.toNat then word = [l.char.toNat.toUInt8]
  else spells .scalar (f.casesOf l) before word after

def dotSet (f : Flags) : Intervals :=
  let excluded : Intervals :=
    if f.dotAll then []
    else if f.crlf then [⟨0x0A, 0x0A⟩, ⟨0x0D, 0x0D⟩]
    else [⟨0x0A, 0x0A⟩]
  excluded.complement f.domain

def classWords (f : Flags) (found : Except SyntaxError Intervals) : Between :=
  fun before word after =>
  ∃ s, found = .ok s ∧ spells f.domain s before word after

mutual

def behind (f : Flags) : Expr → Flags
  | .flags _ items => f.set items
  | .iterate _ _ _ _ sub => behind f sub
  | .alternation _ items | .concat _ items => behindAll f items
  | _ => f

def behindAll (f : Flags) : List Expr → Flags
  | [] => f
  | e :: rest => behindAll (behind f e) rest

end

mutual

/-- The words that an expression matches where the flags `f` hold. -/
def Matches (f : Flags) : Expr → Between
  | .empty _ | .flags _ _ => .nothing
  | .literal l => f.literalWords l
  | .dot _ => spells f.domain f.dotSet
  | .assertion _ a => fun before word after =>
    word = [] ∧ (f.assertion a).holds (Edge.ofByte? before.getLast?)
      (Edge.ofByte? after.head?) = true
  | .property span query negated => f.classWords (f.property span query negated)
  | .short _ kind negated => spells f.domain (f.short kind negated)
  | .bracketed _ negated body =>
    f.classWords ((f.classSet body).map fun s => f.negate negated (f.foldCase s))
  | .iterate _ min max _ sub => (Matches f sub).times min max
  | .group _ (.capture _ _) sub => Matches f sub
  | .group _ (.scoped items) sub => Matches (f.set items) sub
  | .alternation _ items => .any (MatchesEach f items)
  | .concat _ items => .all (MatchesEach f items)

def MatchesEach (f : Flags) : List Expr → List Between
  | [] => []
  | e :: rest => Matches f e :: MatchesEach (f.behind e) rest

end

end Flags

/-- The texts that a written pattern matches from end to end, with Unicode off. -/
def Language (pattern : String) (text : List UInt8) : Prop :=
  ∃ e, Expr.parse pattern = .ok e ∧ (Flags.initial false).Matches e [] text []

theorem language_iff {pattern : String} {e : Expr} (h : Expr.parse pattern = .ok e)
    {text : List UInt8} :
    Language pattern text ↔ (Flags.initial false).Matches e [] text [] := by
  constructor
  · rintro ⟨e', he', hmatch⟩
    obtain rfl := Except.ok.inj (h.symm.trans he')
    exact hmatch
  · intro hmatch
    exact ⟨e, h, hmatch⟩

namespace Flags

variable {f : Flags} {s t : Intervals}

theorem proper_members (kind : NamedClass) (d : Domain) : Intervals.Proper d kind.members := by
  have hall : ∀ i ∈ kind.members, i.lo ≤ i.hi ∧ i.hi < 0x80 := by cases kind <;> decide
  intro i hi
  obtain ⟨hle, hlt⟩ := hall i hi
  exact ⟨hle, Domain.holds_of_ascii (by omega), Domain.holds_of_ascii hlt⟩

theorem proper_foldCase (h : s.Proper f.domain) : (f.foldCase s).Proper f.domain := by
  unfold foldCase
  split
  · exact h
  · unfold domain at h ⊢
    split
    · next hu =>
      rw [if_pos hu] at h
      exact Unicode.proper_foldCase h
    · next hu =>
      rw [if_neg hu] at h
      exact Intervals.endsIn_foldAscii (fun _ => Domain.holds_of_ascii) h

theorem proper_negate (negated : Bool) (h : s.Proper f.domain) :
    (f.negate negated s).Proper f.domain := by
  unfold negate
  split
  · exact Intervals.proper_complement h
  · exact h

theorem proper_short (kind : ShortClass) (negated : Bool) :
    (f.short kind negated).Proper f.domain := by
  refine proper_negate negated ?_
  unfold domain
  cases kind <;> unfold ShortClass.members
  all_goals split
  · exact Unicode.proper_category "nd"
  · exact proper_members _ _
  · exact Unicode.proper_binary "whitespace"
  · exact proper_members _ _
  · exact Unicode.proper_wordCharacters
  · exact proper_members _ _

theorem proper_property {span : Span} {query : PropertyQuery} {negated : Bool}
    (h : f.property span query negated = .ok s) : s.Proper f.domain := by
  unfold property at h
  split at h
  · cases h
  · next hu =>
    have hu : f.unicode = true := by simpa using hu
    have hdomain : f.domain = .scalar := by rw [domain, if_pos hu]
    dsimp only at h
    split at h
    · next t hfound =>
      obtain rfl := Except.ok.inj h
      refine proper_negate negated (proper_foldCase ?_)
      rw [hdomain]
      cases query with
      | letter c => exact Unicode.proper_byName hfound
      | named name => exact Unicode.proper_byName hfound
      | valued name value => exact Unicode.proper_byValue hfound
    · cases h
    · cases h

theorem member_eq_ok {l : Literal} (hl : l.Sound) {n : Nat} (h : f.member l = .ok n) :
    n = l.char.toNat ∧ f.domain.Holds n := by
  unfold member at h
  split at h
  · next hor =>
    obtain rfl := Except.ok.inj h
    refine ⟨rfl, ?_⟩
    unfold domain
    split
    · exact l.char.valid
    · next hu =>
      rcases hor.resolve_left hu with hbyte | hascii
      · exact hl hbyte
      · exact Domain.holds_of_ascii hascii
  · cases h

mutual

theorem proper_classSet {s : Intervals} (e : ClassExpr) (he : e.Sound) (h : f.classSet e = .ok s) :
    s.Proper f.domain := by
  cases e with
  | empty span =>
    obtain rfl := Except.ok.inj h
    exact Intervals.endsIn_nil
  | literal l =>
    obtain ⟨n, hn, h⟩ := Except.bind_eq_ok.mp h
    obtain rfl := Except.ok.inj h
    exact Intervals.endsIn_single (member_eq_ok he hn).2
  | range span lo hi =>
    obtain ⟨a, ha, h⟩ := Except.bind_eq_ok.mp h
    obtain ⟨b, hb, h⟩ := Except.bind_eq_ok.mp h
    obtain rfl := Except.ok.inj h
    obtain ⟨hlo, hhi, hle⟩ := he
    obtain ⟨rfl, hloHolds⟩ := member_eq_ok hlo ha
    obtain ⟨rfl, hhiHolds⟩ := member_eq_ok hhi hb
    exact Intervals.endsIn_cons.mpr ⟨⟨hle, hloHolds, hhiHolds⟩, Intervals.endsIn_nil⟩
  | named span kind negated =>
    obtain rfl := Except.ok.inj h
    exact proper_negate negated (proper_foldCase (proper_members kind _))
  | property span query negated => exact proper_property h
  | short span kind negated =>
    obtain rfl := Except.ok.inj h
    exact proper_short kind negated
  | bracketed span negated body =>
    obtain ⟨t, ht, h⟩ := Except.bind_eq_ok.mp h
    obtain rfl := Except.ok.inj h
    exact proper_negate negated (proper_foldCase (proper_classSet body he ht))
  | union span items => exact proper_classSets items he h
  | operation span op lhs rhs =>
    obtain ⟨a, ha, h⟩ := Except.bind_eq_ok.mp h
    obtain ⟨b, hb, h⟩ := Except.bind_eq_ok.mp h
    obtain rfl := Except.ok.inj h
    have hlhs := proper_foldCase (proper_classSet lhs he.1 ha)
    have hrhs := proper_foldCase (proper_classSet rhs he.2 hb)
    cases op with
    | intersection => exact Intervals.endsIn_inter hlhs hrhs
    | difference => exact Intervals.proper_diff hlhs hrhs
    | symmetricDifference => exact Intervals.proper_symmDiff hlhs hrhs

theorem proper_classSets {s : Intervals} (es : List ClassExpr) (he : ClassExpr.AllSound es)
    (h : f.classSets es = .ok s) : s.Proper f.domain := by
  cases es with
  | nil =>
    obtain rfl := Except.ok.inj h
    exact Intervals.endsIn_nil
  | cons e es =>
    obtain ⟨a, ha, h⟩ := Except.bind_eq_ok.mp h
    obtain ⟨b, hb, h⟩ := Except.bind_eq_ok.mp h
    obtain rfl := Except.ok.inj h
    exact Intervals.endsIn_union (proper_classSet e he.1 ha) (proper_classSets es he.2 hb)

end

theorem proper_dotSet : f.dotSet.Proper f.domain := by
  refine Intervals.proper_complement ?_
  have hfeed : f.domain.Holds 0x0A := Domain.holds_of_ascii (by decide)
  have hreturn : f.domain.Holds 0x0D := Domain.holds_of_ascii (by decide)
  split_ifs
  · exact Intervals.endsIn_nil
  · exact Intervals.endsIn_cons.mpr ⟨⟨Nat.le_refl _, hfeed, hfeed⟩, Intervals.endsIn_single hreturn⟩
  · exact Intervals.endsIn_single hfeed

section Literals

variable {l : Literal}

theorem contains_casesOf : (f.casesOf l).contains l.char.toNat = true := by
  have hself : Intervals.contains [Interval.single l.char.toNat] l.char.toNat = true :=
    Intervals.contains_singleton.mpr (Interval.contains_single.mpr rfl)
  unfold casesOf foldCase
  split_ifs
  · exact hself
  · exact Intervals.contains_normalize.mpr (Intervals.contains_append.mpr (Or.inl hself))
  · rw [Intervals.foldAscii]
    refine Intervals.contains_normalize.mpr (Intervals.contains_append.mpr (Or.inl ?_))
    exact Intervals.contains_append.mpr (Or.inl hself)
  · exact hself

theorem foldAscii_single {n : Nat} (h : 0x80 ≤ n) :
    Intervals.foldAscii [Interval.single n] = [Interval.single n] := by
  have hnone : ∀ base : Nat, base + 25 < 0x80 →
      Intervals.inter [Interval.single n] [⟨base, base + 25⟩] = [] := by
    intro base hbase
    refine List.eq_nil_iff_forall_not_mem.mpr fun k hk => ?_
    obtain ⟨i, hi, j, hj, hij⟩ := Intervals.mem_inter hk
    obtain rfl := List.mem_singleton.mp hi
    obtain rfl := List.mem_singleton.mp hj
    obtain ⟨hlo, hhi, hle⟩ := Interval.inter?_eq_some hij
    simp only [Interval.single] at hlo hhi
    omega
  simp only [Intervals.foldAscii, hnone 0x61 (by omega), hnone 0x41 (by omega), List.map_nil,
    List.append_nil]
  rw [Intervals.normalize_eq, List.mergeSort_singleton]
  rfl

theorem casesOf_of_not_single (h : ¬ (f.casesOf l).single?.isSome = true) :
    (f.casesOf l).Proper f.domain ∧ (f.unicode = false → Form.isAscii (f.casesOf l) = true) := by
  have hsingle : (Intervals.single? [Interval.single l.char.toNat]).isSome = true := by
    simp [Intervals.single?, Interval.single]
  have hci : f.caseInsensitive = true := by
    by_contra hci
    rw [casesOf, if_neg hci] at h
    exact h hsingle
  rw [casesOf, if_pos hci] at h ⊢
  cases hu : f.unicode with
  | true =>
    have hdomain : f.domain = .scalar := by rw [domain, if_pos hu]
    refine ⟨proper_foldCase (Intervals.endsIn_single ?_), by simp⟩
    rw [hdomain]
    exact l.char.valid
  | false =>
    have hfold : f.foldCase [Interval.single l.char.toNat] =
        Intervals.foldAscii [Interval.single l.char.toNat] := by simp [foldCase, hci, hu]
    rw [hfold] at h ⊢
    have hascii : l.char.toNat < 0x80 := by
      by_contra hge
      rw [foldAscii_single (by omega)] at h
      exact h hsingle
    have hends := Intervals.endsIn_foldAscii (P := (· < 0x80)) (fun _ => id)
      (Intervals.endsIn_single hascii)
    have hall : Form.isAscii (Intervals.foldAscii [Interval.single l.char.toNat]) = true := by
      refine List.all_eq_true.mpr fun i hi => decide_eq_true ?_
      have := (hends i hi).2.2
      omega
    exact ⟨fun i hi => ⟨(hends i hi).1, Domain.holds_of_ascii (hends i hi).2.1,
      Domain.holds_of_ascii (hends i hi).2.2⟩, fun _ => hall⟩

@[simp] theorem matches_literal (f : Flags) (l : Literal) :
    (f.literal l).Matches = f.literalWords l ∧ (f.literal l).Sound := by
  have hliteral : f.literal l =
      if !f.unicode ∧ l.isByte ∧ 0x7F < l.char.toNat then .literal [l.char.toNat.toUInt8]
      else if (f.casesOf l).single?.isSome then .literal (Text.Utf8.encodeChar l.char)
      else Form.classOf f.domain (f.casesOf l) := rfl
  rw [hliteral]
  split
  · next hbyte =>
    refine ⟨Between.ext fun before word after => ?_, List.cons_ne_nil _ _⟩
    rw [literalWords, if_pos hbyte]
    rfl
  · next hbyte =>
    have hwords : f.literalWords l = spells .scalar (f.casesOf l) := by
      refine Between.ext fun before word after => ?_
      rw [literalWords, if_neg hbyte]
    rw [hwords]
    split
    · next hone =>
      obtain ⟨n, hn⟩ := Option.isSome_iff_exists.mp hone
      have hcases : f.casesOf l = [Interval.single n] := Form.single?_eq_some hn
      have hself := contains_casesOf (f := f) (l := l)
      rw [hcases, Intervals.contains_singleton, Interval.contains_single] at hself
      rw [hcases, ← hself, Form.spells_char]
      exact ⟨rfl, Text.Utf8.encodeChar_ne_nil _⟩
    · next hmany =>
      obtain ⟨hproper, hascii⟩ := casesOf_of_not_single hmany
      refine ⟨?_, Form.sound_classOf hproper⟩
      rw [Form.matches_classOf hproper, domain]
      split
      · rfl
      · next hu => exact spells_of_ascii (hascii (Bool.eq_false_iff.mpr hu))

end Literals

theorem classWords_ok (s : Intervals) : f.classWords (.ok s) = spells f.domain s := by
  refine Between.ext fun before word after => ?_
  constructor
  · rintro ⟨t, ht, h⟩
    obtain rfl := Except.ok.inj ht
    exact h
  · intro h
    exact ⟨s, rfl, h⟩

section Inversion

variable {g : Flags} {form : Form} {fs : List Form} {span : Span} {sub : Expr} {items : List Expr}

/-! Where the form of an expression comes from, one statement for each way to put an expression
together. -/

theorem form_property_eq_ok {query : PropertyQuery} {negated : Bool} :
    f.form (.property span query negated) = .ok (form, g) ↔
      ∃ s, f.property span query negated = .ok s ∧ form = Form.classOf f.domain s ∧ g = f := by
  constructor
  · intro h
    obtain ⟨s, hs, h⟩ := Except.bind_eq_ok.mp h
    obtain ⟨rfl, rfl⟩ := Prod.mk.inj (Except.ok.inj h)
    exact ⟨s, hs, rfl, rfl⟩
  · rintro ⟨s, hs, rfl, rfl⟩
    exact Except.bind_eq_ok.mpr ⟨s, hs, rfl⟩

theorem form_bracketed_eq_ok {negated : Bool} {body : ClassExpr} :
    f.form (.bracketed span negated body) = .ok (form, g) ↔
      ∃ s, f.classSet body = .ok s ∧
        form = Form.classOf f.domain (f.negate negated (f.foldCase s)) ∧ g = f := by
  constructor
  · intro h
    obtain ⟨s, hs, h⟩ := Except.bind_eq_ok.mp h
    obtain ⟨rfl, rfl⟩ := Prod.mk.inj (Except.ok.inj h)
    exact ⟨s, hs, rfl, rfl⟩
  · rintro ⟨s, hs, rfl, rfl⟩
    exact Except.bind_eq_ok.mpr ⟨s, hs, rfl⟩

theorem form_iterate_eq_ok {min : Nat} {max : Option Nat} {greedy : Bool} :
    f.form (.iterate span min max greedy sub) = .ok (form, g) ↔
      ∃ inner, f.form sub = .ok (inner, g) ∧
        form = Form.iterated min max (greedy != g.swapGreed) inner := by
  constructor
  · intro h
    obtain ⟨⟨inner, g'⟩, hinner, h⟩ := Except.bind_eq_ok.mp h
    obtain ⟨rfl, rfl⟩ := Prod.mk.inj (Except.ok.inj h)
    exact ⟨inner, hinner, rfl⟩
  · rintro ⟨inner, hinner, rfl⟩
    exact Except.bind_eq_ok.mpr ⟨_, hinner, rfl⟩

theorem form_capture_eq_ok {i : Nat} {name : Option String} :
    f.form (.group span (.capture i name) sub) = .ok (form, g) ↔
      ∃ inner g', f.form sub = .ok (inner, g') ∧ form = .group i name inner ∧ g = f := by
  constructor
  · intro h
    obtain ⟨⟨inner, g'⟩, hinner, h⟩ := Except.bind_eq_ok.mp h
    obtain ⟨rfl, rfl⟩ := Prod.mk.inj (Except.ok.inj h)
    exact ⟨inner, g', hinner, rfl, rfl⟩
  · rintro ⟨inner, g', hinner, rfl, rfl⟩
    exact Except.bind_eq_ok.mpr ⟨_, hinner, rfl⟩

theorem form_scoped_eq_ok {flags : List FlagItem} :
    f.form (.group span (.scoped flags) sub) = .ok (form, g) ↔
      ∃ g', (f.set flags).form sub = .ok (form, g') ∧ g = f := by
  constructor
  · intro h
    obtain ⟨⟨inner, g'⟩, hinner, h⟩ := Except.bind_eq_ok.mp h
    obtain ⟨rfl, rfl⟩ := Prod.mk.inj (Except.ok.inj h)
    exact ⟨g', hinner, rfl⟩
  · rintro ⟨g', hinner, rfl⟩
    exact Except.bind_eq_ok.mpr ⟨_, hinner, rfl⟩

theorem form_alternation_eq_ok : f.form (.alternation span items) = .ok (form, g) ↔
    ∃ branches, f.forms items = .ok (branches, g) ∧ form = Form.alternate branches := by
  constructor
  · intro h
    obtain ⟨⟨branches, g'⟩, hbranches, h⟩ := Except.bind_eq_ok.mp h
    obtain ⟨rfl, rfl⟩ := Prod.mk.inj (Except.ok.inj h)
    exact ⟨branches, hbranches, rfl⟩
  · rintro ⟨branches, hbranches, rfl⟩
    exact Except.bind_eq_ok.mpr ⟨_, hbranches, rfl⟩

theorem form_concat_eq_ok : f.form (.concat span items) = .ok (form, g) ↔
    ∃ parts, f.forms items = .ok (parts, g) ∧ form = Form.concat parts := by
  constructor
  · intro h
    obtain ⟨⟨parts, g'⟩, hparts, h⟩ := Except.bind_eq_ok.mp h
    obtain ⟨rfl, rfl⟩ := Prod.mk.inj (Except.ok.inj h)
    exact ⟨parts, hparts, rfl⟩
  · rintro ⟨parts, hparts, rfl⟩
    exact Except.bind_eq_ok.mpr ⟨_, hparts, rfl⟩

theorem forms_nil_eq_ok : f.forms [] = .ok (fs, g) ↔ fs = [] ∧ g = f := by
  constructor
  · intro h
    obtain ⟨rfl, rfl⟩ := Prod.mk.inj (Except.ok.inj h)
    exact ⟨rfl, rfl⟩
  · rintro ⟨rfl, rfl⟩
    rfl

theorem forms_cons_eq_ok : f.forms (sub :: items) = .ok (fs, g) ↔ ∃ first behind others,
    f.form sub = .ok (first, behind) ∧ behind.forms items = .ok (others, g) ∧
    fs = first :: others := by
  constructor
  · intro h
    obtain ⟨⟨first, behind⟩, hfirst, h⟩ := Except.bind_eq_ok.mp h
    obtain ⟨⟨others, g'⟩, hothers, h⟩ := Except.bind_eq_ok.mp h
    obtain ⟨rfl, rfl⟩ := Prod.mk.inj (Except.ok.inj h)
    exact ⟨first, behind, others, hfirst, hothers, rfl⟩
  · rintro ⟨first, behind, others, hfirst, hothers, rfl⟩
    exact Except.bind_eq_ok.mpr ⟨_, hfirst, Except.bind_eq_ok.mpr ⟨_, hothers, rfl⟩⟩

end Inversion

mutual

/-- The normal form of an expression matches what the expression matches as it is written. -/
theorem form_eq_ok (f : Flags) {g : Flags} {form : Form} (e : Expr) (he : e.Sound)
    (h : f.form e = .ok (form, g)) : g = f.behind e ∧ form.Matches = f.Matches e ∧ form.Sound := by
  cases e with
  | empty span =>
    obtain ⟨rfl, rfl⟩ := Prod.mk.inj (Except.ok.inj h)
    exact ⟨rfl, rfl, trivial⟩
  | flags span items =>
    obtain ⟨rfl, rfl⟩ := Prod.mk.inj (Except.ok.inj h)
    exact ⟨rfl, rfl, trivial⟩
  | literal l =>
    obtain ⟨rfl, rfl⟩ := Prod.mk.inj (Except.ok.inj h)
    exact ⟨rfl, matches_literal f l⟩
  | dot span =>
    obtain ⟨rfl, rfl⟩ := Prod.mk.inj (Except.ok.inj h)
    exact ⟨rfl, Form.matches_classOf proper_dotSet, Form.sound_classOf proper_dotSet⟩
  | assertion span a =>
    obtain ⟨rfl, rfl⟩ := Prod.mk.inj (Except.ok.inj h)
    exact ⟨rfl, rfl, trivial⟩
  | property span query negated =>
    obtain ⟨s, hs, rfl, rfl⟩ := form_property_eq_ok.mp h
    have hproper := proper_property hs
    refine ⟨rfl, ?_, Form.sound_classOf hproper⟩
    rw [Matches, hs, classWords_ok, Form.matches_classOf hproper]
  | short span kind negated =>
    obtain ⟨rfl, rfl⟩ := Prod.mk.inj (Except.ok.inj h)
    have hproper : (f.short kind negated).Proper f.domain := proper_short kind negated
    exact ⟨rfl, Form.matches_classOf hproper, Form.sound_classOf hproper⟩
  | bracketed span negated body =>
    obtain ⟨s, hs, rfl, rfl⟩ := form_bracketed_eq_ok.mp h
    have hproper := proper_negate negated (proper_foldCase (proper_classSet body he hs))
    refine ⟨rfl, ?_, Form.sound_classOf hproper⟩
    rw [Matches, hs, Except.map, classWords_ok, Form.matches_classOf hproper]
  | iterate span min max greedy sub =>
    obtain ⟨inner, hinner, rfl⟩ := form_iterate_eq_ok.mp h
    obtain ⟨rfl, hmatches, hsound⟩ := form_eq_ok f sub he.2 hinner
    refine ⟨rfl, ?_, Form.sound_iterated he.1 _ hsound⟩
    rw [Form.matches_iterated he.1, hmatches, Matches]
  | group span kind sub =>
    rcases kind with ⟨index, name⟩ | items
    · obtain ⟨inner, g', hinner, rfl, rfl⟩ := form_capture_eq_ok.mp h
      obtain ⟨-, hmatches, hsound⟩ := form_eq_ok g sub he hinner
      exact ⟨rfl, hmatches, hsound⟩
    · obtain ⟨g', hinner, rfl⟩ := form_scoped_eq_ok.mp h
      obtain ⟨-, hmatches, hsound⟩ := form_eq_ok (g.set items) sub he hinner
      exact ⟨rfl, hmatches, hsound⟩
  | alternation span items =>
    obtain ⟨branches, hbranches, rfl⟩ := form_alternation_eq_ok.mp h
    obtain ⟨rfl, hmatches, hsound⟩ := forms_eq_ok f items he hbranches
    refine ⟨rfl, ?_, Form.sound_alternate hsound⟩
    rw [Form.matches_alternate hsound, hmatches, Matches]
  | concat span items =>
    obtain ⟨parts, hparts, rfl⟩ := form_concat_eq_ok.mp h
    obtain ⟨rfl, hmatches, hsound⟩ := forms_eq_ok f items he hparts
    refine ⟨rfl, ?_, Form.sound_concat hsound⟩
    rw [Form.matches_concat, hmatches, Matches]

theorem forms_eq_ok (f : Flags) {g : Flags} {fs : List Form} (es : List Expr)
    (he : Expr.AllSound es) (h : f.forms es = .ok (fs, g)) :
    g = f.behindAll es ∧ fs.map Form.Matches = f.MatchesEach es ∧ ∀ x ∈ fs, x.Sound := by
  cases es with
  | nil =>
    obtain ⟨rfl, rfl⟩ := forms_nil_eq_ok.mp h
    exact ⟨rfl, rfl, by simp⟩
  | cons e es =>
    obtain ⟨first, _, others, hfirst, hothers, rfl⟩ := forms_cons_eq_ok.mp h
    obtain ⟨rfl, hmatches, hsound⟩ := form_eq_ok f e he.1 hfirst
    obtain ⟨rfl, hrest, hall⟩ := forms_eq_ok (f.behind e) es he.2 hothers
    refine ⟨rfl, ?_, List.forall_mem_cons.mpr ⟨hsound, hall⟩⟩
    rw [List.map_cons, hmatches, hrest, MatchesEach]

end

end Flags

theorem Form.parse_eq_ok {unicode : Bool} {text : String} {form : Form} :
    Form.parse unicode text = .ok form ↔
    ∃ e g, Expr.parse text = .ok e ∧ (Flags.initial unicode).form e = .ok (form, g) := by
  constructor
  · intro h
    obtain ⟨e, he, h⟩ := Except.bind_eq_ok.mp h
    obtain ⟨⟨form', g⟩, hform, h⟩ := Except.bind_eq_ok.mp h
    obtain rfl := Except.ok.inj h
    exact ⟨e, g, he, hform⟩
  · rintro ⟨e, g, he, hform⟩
    exact Except.bind_eq_ok.mpr ⟨e, he, Except.bind_eq_ok.mpr ⟨_, hform, rfl⟩⟩

end Keypad.Pattern
