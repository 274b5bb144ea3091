import Keypad.Proofs.Anchored
import Keypad.Proofs.Precedence
/-!
What is read back of a written form has the order of preference of what the form is read as. That is
the order of the form itself, unless a question mark behind an operator has turned into a mark of
laziness.
-/
namespace Keypad.Pattern

open Attempt (allOf anyOf)
open Flags (plain)

namespace Form

/-- Nothing that ends in an operator is made optional. -/
def Faithful : Form → Prop
  | .iterate min max _ sub => ¬ (min = 0 ∧ max = some 1 ∧ sub.endsOpen = true) ∧ sub.Faithful
  | .group _ _ sub => sub.Faithful
  | .seq a b | .alt a b => a.Faithful ∧ b.Faithful
  | .empty | .look _ | .literal _ | .bytes _ | .chars _ => True

variable {f : Form}

theorem Faithful.legible (h : f.Faithful) : f.Legible := by
  induction f with
  | iterate min max greedy sub ih =>
    exact ⟨fun hmin hmax _ hopen => absurd ⟨hmin, hmax, hopen⟩ h.1, ih h.2⟩
  | group i name sub ih => exact ih h
  | seq a b iha ihb | alt a b iha ihb => exact ⟨iha h.1, ihb h.2⟩
  | _ => trivial

theorem Faithful.attempt_reread {τ : Type} {mark : Nat → Option String → τ → τ} (h : f.Faithful) :
    f.reread.attempt mark = f.attempt mark := by
  induction f with
  | iterate min max greedy sub ih =>
    rw [reread, if_neg h.1]
    split
    · next honce =>
      obtain ⟨rfl, rfl⟩ := honce
      exact ih h.2
    · rw [attempt, attempt, ih h.2]
      by_cases hexact : max = some min
      · -- a repetition with an exact count leaves no choice
        subst hexact
        simp [Attempt.times, Attempt.upTo]
      · rw [decide_eq_false hexact, Bool.or_false]
  | group i name sub ih => rw [reread, attempt, attempt, ih h]
  | seq a b iha ihb | alt a b iha ihb => rw [reread, attempt, attempt, iha h.1, ihb h.2]
  | _ => rfl

end Form

theorem Written.attempt_of_fixed {f form : Form} {e : Expr} {g : Flags} (h : Written f e)
    (he : e.Sound) (hform : plain.form e = .ok (form, g))
    (hfollows : (f.attempt named).Follows f.Matches) (hfixed : f.Matches.Fixed) (hf : f.groups = [])
    (hgroups : e.groups = []) : plain.attempt named e = f.attempt named := by
  have hwritten : (plain.attempt named e).Follows f.Matches :=
    (Flags.attempt_follows plain e he).of_eq (h.matches he hform).2
  exact hwritten.eq_of_fixed hfollows hfixed (Flags.attempt_bare hgroups) (Form.attempt_bare hf)

mutual

theorem Written.attempt {f form : Form} {e : Expr} {g : Flags} (h : Written f e) (he : e.Sound)
    (hform : plain.form e = .ok (form, g)) : plain.attempt named e = f.attempt named := by
  cases h with
  | empty span inner => rfl
  | look span a => rfl
  | scopedLook span inner items a => rfl
  | letter h =>
    exact (Written.letter h).attempt_of_fixed he hform (.word _) (fixed_literal _) rfl h.groups
  | letters span inner h =>
    exact (Written.letters span inner h).attempt_of_fixed he hform (.word _)
      (fixed_literal _) rfl h.groups
  | fail span h =>
    exact (Written.fail span h).attempt_of_fixed he hform (.byteOf _) (fixed_spells .byte _) rfl rfl
  | bytes span inner h =>
    exact (Written.bytes span inner h).attempt_of_fixed he hform (.byteOf _)
      (fixed_spells .byte _) rfl rfl
  | chars span h =>
    exact (Written.chars span h).attempt_of_fixed he hform (.charOf _)
      (fixed_spells .scalar _) rfl rfl
  | iterate span min max greedy h =>
    obtain ⟨inner, hinner, -⟩ := Flags.form_iterate_eq_ok.mp hform
    rw [Flags.attempt, Written.attempt h he.2 hinner, (h.matches he.2 hinner).1, Form.attempt]
    congr 1
    exact Bool.xor_false greedy
  | group span i j name h =>
    obtain ⟨inner, g', hinner, -⟩ := Flags.form_capture_eq_ok.mp hform
    have hname : named j name = named i name := by cases name <;> rfl
    rw [Flags.attempt, Written.attempt h he hinner, Form.attempt, hname]
  | bracketed span h =>
    obtain ⟨g', hinner, -⟩ := Flags.form_scoped_eq_ok.mp hform
    have hsub := Written.attempt h he hinner
    exact hsub
  | seq span inner h t =>
    obtain ⟨g', hconcat, -⟩ := Flags.form_scoped_eq_ok.mp hform
    obtain ⟨parts, hparts, -⟩ := Flags.form_concat_eq_ok.mp hconcat
    exact WrittenParts.attempt (.cons h t) he hparts
  | alt span inner h t =>
    obtain ⟨g', halternation, -⟩ := Flags.form_scoped_eq_ok.mp hform
    obtain ⟨branches, hbranches, -⟩ := Flags.form_alternation_eq_ok.mp halternation
    exact WrittenBranches.attempt (.cons h t) he hbranches

theorem WrittenParts.attempt {f : Form} {forms : List Form} {es : List Expr} {g : Flags}
    (h : WrittenParts f es) (he : Expr.AllSound es) (hforms : plain.forms es = .ok (forms, g)) :
    allOf (plain.attempts named es) = f.attempt named := by
  cases h with
  | last h =>
    obtain ⟨first, _, _, hfirst, -⟩ := Flags.forms_cons_eq_ok.mp hforms
    exact Written.attempt h he.1 hfirst
  | cons h t =>
    obtain ⟨first, _, others, hfirst, hothers, -⟩ := Flags.forms_cons_eq_ok.mp hforms
    obtain rfl := (Flags.form_eq_ok _ _ he.1 hfirst).1
    have hbehind := (h.matches he.1 hfirst).1
    rw [hbehind] at hothers
    rw [Flags.attempts, allOf, Written.attempt h he.1 hfirst, hbehind,
      WrittenParts.attempt t he.2 hothers, Form.attempt]

theorem WrittenBranches.attempt {f : Form} {forms : List Form} {es : List Expr} {g : Flags}
    (h : WrittenBranches f es) (he : Expr.AllSound es) (hforms : plain.forms es = .ok (forms, g)) :
    anyOf (plain.attempts named es) = f.attempt named := by
  cases h with
  | last h =>
    obtain ⟨first, _, _, hfirst, -⟩ := Flags.forms_cons_eq_ok.mp hforms
    rw [Flags.attempts, Flags.attempts, Attempt.anyOf_singleton, Written.attempt h he.1 hfirst]
  | cons h t =>
    obtain ⟨first, _, others, hfirst, hothers, -⟩ := Flags.forms_cons_eq_ok.mp hforms
    obtain rfl := (Flags.form_eq_ok _ _ he.1 hfirst).1
    have hbehind := (h.matches he.1 hfirst).1
    rw [hbehind] at hothers
    rw [Flags.attempts, anyOf, Written.attempt h he.1 hfirst, hbehind,
      WrittenBranches.attempt t he.2 hothers, Form.attempt]

end

end Keypad.Pattern
