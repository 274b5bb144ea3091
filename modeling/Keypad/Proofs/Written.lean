import Keypad.Proofs.Meaning
/-!
The expressions that the written form of a form stands for, and that they match what the form
matches. The written form sets only those flags that a condition or a byte asks for, so that every
part of it is read under the flags with which the whole began.
-/
namespace Keypad.Pattern

open Keypad.Charset

namespace Flags

def plain : Flags := Flags.initial false

def byteItems : List FlagItem := [.minus, .flag .unicode]

theorem plain_set_byteItems : plain.set byteItems = plain := rfl

theorem plain_negate (s : Intervals) : plain.negate false (plain.foldCase s) = s := rfl

end Flags

open Flags (plain byteItems)

inductive Letter : List UInt8 → Expr → Prop
  | char (l : Literal) (h : l.isByte = false) : Letter (Text.Utf8.encodeChar l.char) (.literal l)
  | byte (span : Span) (l : Literal) (h : l.isByte = true) (hl : l.char.toNat ≤ 0xFF) :
    Letter [l.char.toNat.toUInt8] (.group span (.scoped byteItems) (.literal l))

inductive Letters : List UInt8 → List Expr → Prop
  | nil : Letters [] []
  | cons {bs cs : List UInt8} {e : Expr} {es : List Expr} (h : Letter bs e) (t : Letters cs es) :
    Letters (bs ++ cs) (e :: es)

structure Inside (readable : Prop) (s : Intervals) (body : ClassExpr) : Prop where
  same : ∀ t, plain.classSet body = .ok t → ∀ n, t.contains n = true ↔ s.contains n = true
  reads : (∃ t, plain.classSet body = .ok t) ↔ readable

mutual

/-- An expression that the written form of a form stands for. -/
inductive Written : Form → Expr → Prop
  | empty (span inner : Span) : Written .empty (.group span (.scoped []) (.empty inner))
  | look (span : Span) (a : Assertion) : Written (.look (plain.assertion a)) (.assertion span a)
  | scopedLook (span inner : Span) (items : List FlagItem) (a : Assertion) :
    Written (.look ((plain.set items).assertion a))
      (.group span (.scoped items) (.assertion inner a))
  | letter {bs : List UInt8} {e : Expr} (h : Letter bs e) : Written (.literal bs) e
  | letters {bs : List UInt8} {es : List Expr} (span inner : Span) (h : Letters bs es) :
    Written (.literal bs) (.group span (.scoped []) (.concat inner es))
  | fail (span : Span) {body : ClassExpr} (h : Inside True [] body) :
    Written (.bytes []) (.bracketed span false body)
  | bytes {s : Intervals} {body : ClassExpr} (span inner : Span) (h : Inside True s body) :
    Written (.bytes s) (.group span (.scoped byteItems) (.bracketed inner false body))
  | chars {s : Intervals} {body : ClassExpr} (span : Span)
      (h : Inside (Form.isAscii s = true) s body) :
    Written (.chars s) (.bracketed span false body)
  | iterate {f : Form} {e : Expr} (span : Span) (min : Nat) (max : Option Nat) (greedy : Bool)
    (h : Written f e) : Written (.iterate min max greedy f) (.iterate span min max greedy e)
  | group {f : Form} {e : Expr} (span : Span) (i j : Nat) (name : Option String) (h : Written f e) :
    Written (.group i name f) (.group span (.capture j name) e)
  | bracketed {f : Form} {e : Expr} (span : Span) (h : Written f e) :
    Written f (.group span (.scoped []) e)
  | seq {a b : Form} {e : Expr} {es : List Expr} (span inner : Span) (h : Written a e)
    (t : WrittenParts b es) :
      Written (.seq a b) (.group span (.scoped []) (.concat inner (e :: es)))
  | alt {a b : Form} {e : Expr} {es : List Expr} (span inner : Span) (h : Written a e)
    (t : WrittenBranches b es) :
    Written (.alt a b) (.group span (.scoped []) (.alternation inner (e :: es)))

inductive WrittenParts : Form → List Expr → Prop
  | last {f : Form} {e : Expr} (h : Written f e) : WrittenParts f [e]
  | cons {a b : Form} {e : Expr} {es : List Expr} (h : Written a e) (t : WrittenParts b es) :
    WrittenParts (.seq a b) (e :: es)

inductive WrittenBranches : Form → List Expr → Prop
  | last {f : Form} {e : Expr} (h : Written f e) : WrittenBranches f [e]
  | cons {a b : Form} {e : Expr} {es : List Expr} (h : Written a e) (t : WrittenBranches b es) :
    WrittenBranches (.alt a b) (e :: es)

end

def Expr.Repeatable : Expr → Prop
  | .empty _ | .flags _ _ => False
  | _ => True

theorem Written.repeatable {f : Form} {e : Expr} (h : Written f e) : e.Repeatable := by
  cases h with
  | letter h => cases h <;> trivial
  | _ => trivial

section Meaning

variable {f : Form} {e : Expr} {es : List Expr}

theorem Letter.matches {bs : List UInt8} (h : Letter bs e) :
    plain.behind e = plain ∧ plain.Matches e = (Form.literal bs).Matches := by
  cases h with
  | char l h =>
    refine ⟨rfl, ?_⟩
    rw [Flags.Matches, ← Form.spells_char]
    refine Between.ext fun before word after => ?_
    rw [Flags.literalWords, if_neg (by simp [h])]
    rfl
  | byte span l h hl =>
    refine ⟨rfl, ?_⟩
    rw [Flags.Matches, Flags.plain_set_byteItems, Flags.Matches, ← Form.spells_byte hl]
    refine Between.ext fun before word after => ?_
    rw [Flags.literalWords]
    by_cases hlt : 0x7F < l.char.toNat
    · rw [if_pos ⟨rfl, h, hlt⟩, Form.spells_byte hl]
      rfl
    · rw [if_neg (by simp [hlt])]
      have hascii : Form.isAscii [Interval.single l.char.toNat] = true := by
        simp only [Form.isAscii, List.all_cons, List.all_nil, Bool.and_true, decide_eq_true_eq]
        show l.char.toNat ≤ 0x7F
        omega
      rw [spells_of_ascii hascii]
      rfl

theorem Letters.matches {bs : List UInt8} (h : Letters bs es) :
    plain.behindAll es = plain ∧
    Between.all (plain.MatchesEach es) = (Form.literal bs).Matches := by
  induction h with
  | nil => exact ⟨rfl, rfl⟩
  | cons h _ ih =>
    obtain ⟨hbehind, hmatches⟩ := h.matches
    refine ⟨?_, ?_⟩
    · rw [Flags.behindAll, hbehind, ih.1]
    · rw [Flags.MatchesEach, hbehind, Between.all, hmatches, ih.2, Form.literal_append]

theorem Inside.classWords {readable : Prop} {s : Intervals} {body : ClassExpr} {t : Intervals}
    (h : Inside readable s body)
    (ht : plain.classSet body = .ok t) :
    plain.classWords ((plain.classSet body).map fun t => plain.negate false (plain.foldCase t)) =
      spells .byte s := by
  rw [ht, Except.map, Flags.classWords_ok, Flags.plain_negate]
  exact spells_congr (h.same t ht)

end Meaning

section Whole

mutual

/-- What a form is written as matches what the form matches, if it has a form again. -/
theorem Written.matches {f form : Form} {e : Expr} {g : Flags} (h : Written f e) (he : e.Sound)
    (hform : plain.form e = .ok (form, g)) :
    plain.behind e = plain ∧ plain.Matches e = f.Matches := by
  cases h with
  | empty span inner => exact ⟨rfl, rfl⟩
  | look span a => exact ⟨rfl, rfl⟩
  | scopedLook span inner items a => exact ⟨rfl, rfl⟩
  | letter h => exact h.matches
  | letters span inner h => exact ⟨rfl, h.matches.2⟩
  | fail span h =>
    obtain ⟨t, ht, -⟩ := Flags.form_bracketed_eq_ok.mp hform
    exact ⟨rfl, h.classWords ht⟩
  | bytes span inner h =>
    obtain ⟨g', hinner, -⟩ := Flags.form_scoped_eq_ok.mp hform
    obtain ⟨t, ht, -⟩ := Flags.form_bracketed_eq_ok.mp hinner
    exact ⟨rfl, h.classWords ht⟩
  | chars span h =>
    obtain ⟨t, ht, -⟩ := Flags.form_bracketed_eq_ok.mp hform
    refine ⟨rfl, ?_⟩
    rw [Flags.Matches, h.classWords ht, spells_of_ascii (h.reads.mp ⟨t, ht⟩)]
    rfl
  | iterate span min max greedy h =>
    obtain ⟨inner, hinner, -⟩ := Flags.form_iterate_eq_ok.mp hform
    obtain ⟨hbehind, hmatches⟩ := Written.matches h he.2 hinner
    exact ⟨hbehind, by rw [Flags.Matches, hmatches, Form.matches_iterate]⟩
  | group span i j name h =>
    obtain ⟨inner, g', hinner, -⟩ := Flags.form_capture_eq_ok.mp hform
    exact ⟨rfl, (Written.matches h he hinner).2⟩
  | bracketed span h =>
    obtain ⟨g', hinner, -⟩ := Flags.form_scoped_eq_ok.mp hform
    exact ⟨rfl, (Written.matches h he hinner).2⟩
  | seq span inner h t =>
    obtain ⟨g', hconcat, -⟩ := Flags.form_scoped_eq_ok.mp hform
    obtain ⟨parts, hparts, -⟩ := Flags.form_concat_eq_ok.mp hconcat
    exact ⟨rfl, (WrittenParts.matches (.cons h t) he hparts).2⟩
  | alt span inner h t =>
    obtain ⟨g', halternation, -⟩ := Flags.form_scoped_eq_ok.mp hform
    obtain ⟨branches, hbranches, -⟩ := Flags.form_alternation_eq_ok.mp halternation
    exact ⟨rfl, (WrittenBranches.matches (.cons h t) he hbranches).2⟩

theorem WrittenParts.matches {f : Form} {forms : List Form} {es : List Expr} {g : Flags}
    (h : WrittenParts f es) (he : Expr.AllSound es) (hforms : plain.forms es = .ok (forms, g)) :
    plain.behindAll es = plain ∧ Between.all (plain.MatchesEach es) = f.Matches := by
  cases h with
  | last h =>
    obtain ⟨first, _, _, hfirst, -⟩ := Flags.forms_cons_eq_ok.mp hforms
    obtain ⟨hbehind, hmatches⟩ := Written.matches h he.1 hfirst
    refine ⟨by rw [Flags.behindAll, hbehind]; rfl, ?_⟩
    rw [Flags.MatchesEach, Flags.MatchesEach, hmatches, Between.all_singleton]
  | cons h t =>
    obtain ⟨first, _, others, hfirst, hothers, -⟩ := Flags.forms_cons_eq_ok.mp hforms
    obtain ⟨hbehind, hmatches⟩ := Written.matches h he.1 hfirst
    obtain rfl := (Flags.form_eq_ok _ _ he.1 hfirst).1
    rw [hbehind] at hothers
    obtain ⟨hrest, hall⟩ := WrittenParts.matches t he.2 hothers
    refine ⟨by rw [Flags.behindAll, hbehind, hrest], ?_⟩
    rw [Flags.MatchesEach, hbehind, Between.all, hmatches, hall, Form.matches_seq]

theorem WrittenBranches.matches {f : Form} {forms : List Form} {es : List Expr} {g : Flags}
    (h : WrittenBranches f es) (he : Expr.AllSound es) (hforms : plain.forms es = .ok (forms, g)) :
    plain.behindAll es = plain ∧ Between.any (plain.MatchesEach es) = f.Matches := by
  cases h with
  | last h =>
    obtain ⟨first, _, _, hfirst, -⟩ := Flags.forms_cons_eq_ok.mp hforms
    obtain ⟨hbehind, hmatches⟩ := Written.matches h he.1 hfirst
    refine ⟨by rw [Flags.behindAll, hbehind]; rfl, ?_⟩
    rw [Flags.MatchesEach, Flags.MatchesEach, hmatches, Between.any_singleton]
  | cons h t =>
    obtain ⟨first, _, others, hfirst, hothers, -⟩ := Flags.forms_cons_eq_ok.mp hforms
    obtain ⟨hbehind, hmatches⟩ := Written.matches h he.1 hfirst
    obtain rfl := (Flags.form_eq_ok _ _ he.1 hfirst).1
    rw [hbehind] at hothers
    obtain ⟨hrest, hall⟩ := WrittenBranches.matches t he.2 hothers
    refine ⟨by rw [Flags.behindAll, hbehind, hrest], ?_⟩
    rw [Flags.MatchesEach, hbehind, Between.any_cons, hmatches, hall, Form.matches_alt]

end

end Whole

end Keypad.Pattern
