import Keypad.Proofs.Preference
/-!
The order of preference of a pattern as it is written: alternatives from left to right, repetitions
greedy or lazy as their marks and the flags say. The normal form keeps it in an orderly pattern,
where no start that allows several words is drawn out of alternatives.
-/
namespace Keypad.Pattern

open Keypad.Charset
open Attempt (allOf anyOf)

def Attempt.memberOf {τ : Type} (d : Domain) (s : Intervals) : Attempt τ :=
  match d with
  | .byte => .byteOf s
  | .scalar => .charOf s

def Attempt.classOf {τ : Type} (d : Domain) (found : Except SyntaxError Intervals) : Attempt τ :=
  match found with
  | .ok s => .memberOf d s
  | .error _ => .never

namespace Form

def takes : Form → Bool
  | .literal bs => !bs.isEmpty
  | .bytes _ | .chars _ => true
  | .empty | .look _ => false
  | .iterate min _ _ sub => 0 < min && sub.takes
  | .group _ _ sub => sub.takes
  | .seq a b => a.takes || b.takes
  | .alt a b => a.takes && b.takes

theorem not_matches_nil {f : Form} (h : f.takes = true) (before after : List UInt8) :
    ¬ f.Matches before [] after := by
  induction f generalizing before after with
  | empty | look => cases h
  | literal bs =>
    rintro rfl
    cases h
  | bytes s =>
    rintro ⟨b, -, hb⟩
    cases hb
  | chars s =>
    rintro ⟨c, -, hc⟩
    exact Text.Utf8.encodeChar_ne_nil c hc.symm
  | iterate min max greedy sub ih =>
    obtain ⟨hmin, hsub⟩ := Bool.and_eq_true_iff.mp h
    rintro ⟨n, hn, -, hpower⟩
    obtain ⟨k, rfl⟩ := Nat.exists_eq_add_of_lt (Nat.lt_of_lt_of_le (of_decide_eq_true hmin) hn)
    rw [Nat.zero_add] at hpower
    obtain ⟨u, v, hnil, hu, -⟩ := hpower
    obtain ⟨rfl, rfl⟩ := List.append_eq_nil_iff.mp hnil.symm
    exact ih hsub _ _ hu
  | group i name sub ih => exact ih h before after
  | seq a b iha ihb =>
    rintro ⟨u, v, hnil, hu, hv⟩
    obtain ⟨rfl, rfl⟩ := List.append_eq_nil_iff.mp hnil.symm
    rcases Bool.or_eq_true_iff.mp h with h | h
    · exact iha h _ _ hu
    · exact ihb h _ _ hv
  | alt a b iha ihb =>
    obtain ⟨ha, hb⟩ := Bool.and_eq_true_iff.mp h
    rintro (hword | hword)
    · exact iha ha _ _ hword
    · exact ihb hb _ _ hword

theorem steady_of_isNone {fs : List Form} (h : (sharedStart? (fs.flatMap branches)).isNone = true) :
    Steady fs := by
  unfold Steady SteadyWithin
  rw [Option.isNone_iff_eq_none.mp h]
  split
  · next heq => cases heq
  · trivial

end Form

namespace Flags

section Attempts

variable {τ : Type} (mark : Nat → Option String → τ → τ)

def literalAttempt (f : Flags) (l : Literal) : Attempt τ :=
  if !f.unicode ∧ l.isByte ∧ 0x7F < l.char.toNat then .word [l.char.toNat.toUInt8]
  else .charOf (f.casesOf l)

mutual

def attempt (f : Flags) : Expr → Attempt τ
  | .empty _ | .flags _ _ => .stay
  | .literal l => f.literalAttempt l
  | .dot _ => .memberOf f.domain f.dotSet
  | .assertion _ a => .check (f.assertion a)
  | .property span query negated => .classOf f.domain (f.property span query negated)
  | .short _ kind negated => .memberOf f.domain (f.short kind negated)
  | .bracketed _ negated body =>
    .classOf f.domain ((f.classSet body).map fun s => f.negate negated (f.foldCase s))
  | .iterate _ min max greedy sub =>
    .times min max (greedy != (f.behind sub).swapGreed) (attempt f sub)
  | .group _ (.capture i name) sub => .noting (mark i name) (attempt f sub)
  | .group _ (.scoped items) sub => attempt (f.set items) sub
  | .alternation _ items => .anyOf (attempts f items)
  | .concat _ items => .allOf (attempts f items)

def attempts (f : Flags) : List Expr → List (Attempt τ)
  | [] => []
  | e :: rest => attempt f e :: attempts (f.behind e) rest

end

end Attempts

section Laws

variable {τ σ : Type} {mark : Nat → Option String → τ → τ}
  {mark' : Nat → Option String → σ → σ} {f : Flags}

theorem memberOf_follows (d : Domain) (s : Intervals) :
    (Attempt.memberOf d s : Attempt τ).Follows (spells d s) := by
  cases d with
  | byte => exact .byteOf s
  | scalar => exact .charOf s

theorem classOf_follows (f : Flags) (found : Except SyntaxError Intervals) :
    (Attempt.classOf f.domain found : Attempt τ).Follows (f.classWords found) := by
  cases found with
  | ok s => exact (memberOf_follows f.domain s).of_eq (classWords_ok s).symm
  | error e =>
    refine Attempt.Follows.never.of_eq (Between.ext fun before word after => iff_of_false id ?_)
    rintro ⟨s, hs, -⟩
    cases hs

theorem literalAttempt_follows (f : Flags) (l : Literal) :
    (f.literalAttempt l : Attempt τ).Follows (f.literalWords l) := by
  unfold literalAttempt literalWords
  split
  · exact .word _
  · exact .charOf _

mutual

theorem attempt_follows (f : Flags) (e : Expr) (he : e.Sound) :
    (f.attempt mark e).Follows (f.Matches e) := by
  cases e with
  | empty | flags => exact .stay
  | literal l => exact literalAttempt_follows f l
  | dot => exact memberOf_follows _ _
  | assertion span a => exact .check _
  | property => exact classOf_follows f _
  | short => exact memberOf_follows _ _
  | bracketed => exact classOf_follows f _
  | iterate span min max greedy sub =>
    exact (attempt_follows f sub he.2).times (fun m hm => (he.1.2 m hm).1) _
  | group span kind sub =>
    rcases kind with ⟨i, name⟩ | items
    · exact (attempt_follows f sub he).noting _
    · exact attempt_follows (f.set items) sub he
  | alternation span items => exact (attempts_follows f items he).1
  | concat span items => exact (attempts_follows f items he).2

theorem attempts_follows (f : Flags) (es : List Expr) (he : Expr.AllSound es) :
    (anyOf (f.attempts mark es)).Follows (Between.any (f.MatchesEach es)) ∧
      (allOf (f.attempts mark es)).Follows (Between.all (f.MatchesEach es)) := by
  cases es with
  | nil =>
    refine ⟨Attempt.Follows.never.of_eq (Between.ext fun before word after => ?_), .stay⟩
    exact iff_of_false id Between.any_nil
  | cons e es =>
    have hfirst : (f.attempt mark e).Follows (f.Matches e) := attempt_follows f e he.1
    obtain ⟨hany, hall⟩ : (anyOf ((f.behind e).attempts mark es)).Follows _ ∧
        (allOf ((f.behind e).attempts mark es)).Follows _ := attempts_follows (f.behind e) es he.2
    exact ⟨(hfirst.either hany).of_eq Between.any_cons.symm, hfirst.seq hall⟩

end

theorem memberOf_along {h : τ → σ} (d : Domain) (s : Intervals) :
    Attempt.Along h (Attempt.memberOf d s) (Attempt.memberOf d s) := by
  cases d with
  | byte => exact .byteOf s
  | scalar => exact .charOf s

theorem classOf_along {h : τ → σ} (d : Domain) (found : Except SyntaxError Intervals) :
    Attempt.Along h (Attempt.classOf d found) (Attempt.classOf d found) := by
  cases found with
  | ok s => exact memberOf_along d s
  | error e => exact .never

theorem literalAttempt_along {h : τ → σ} (f : Flags) (l : Literal) :
    Attempt.Along h (f.literalAttempt l) (f.literalAttempt l) := by
  unfold literalAttempt
  split
  · exact .word _
  · exact .charOf _

mutual

theorem attempt_along {h : τ → σ} (f : Flags) (e : Expr)
    (hmark : ∀ i name, (i, name) ∈ e.groups → ∀ t, h (mark i name t) = mark' i name (h t)) :
    Attempt.Along h (f.attempt mark e) (f.attempt mark' e) := by
  cases e with
  | empty | flags => exact .stay
  | literal l => exact literalAttempt_along f l
  | dot => exact memberOf_along _ _
  | assertion span a => exact .check _
  | property => exact classOf_along _ _
  | short => exact memberOf_along _ _
  | bracketed => exact classOf_along _ _
  | iterate span min max greedy sub => exact (attempt_along f sub hmark).times min max _
  | group span kind sub =>
    rcases kind with ⟨i, name⟩ | items
    · have hsub :=
        attempt_along f sub fun j other hmem => hmark j other (List.mem_cons_of_mem _ hmem)
      exact hsub.noting (hmark i name List.mem_cons_self)
    · exact attempt_along (f.set items) sub hmark
  | alternation span items => exact (attempts_along f items hmark).1
  | concat span items => exact (attempts_along f items hmark).2

theorem attempts_along {h : τ → σ} (f : Flags) (es : List Expr)
    (hmark : ∀ i name, (i, name) ∈ Expr.groupsOfAll es →
      ∀ t, h (mark i name t) = mark' i name (h t)) :
    Attempt.Along h (anyOf (f.attempts mark es)) (anyOf (f.attempts mark' es)) ∧
      Attempt.Along h (allOf (f.attempts mark es)) (allOf (f.attempts mark' es)) := by
  cases es with
  | nil => exact ⟨.never, .stay⟩
  | cons e es =>
    have hfirst := attempt_along f e fun i name hmem => hmark i name (List.mem_append_left _ hmem)
    obtain ⟨hany, hall⟩ := attempts_along (f.behind e) es fun i name hmem =>
      hmark i name (List.mem_append_right _ hmem)
    exact ⟨hfirst.either hany, hfirst.seq hall⟩

end

theorem attempt_bare {e : Expr} (he : e.groups = []) : (f.attempt mark e).Bare := by
  intro t
  refine attempt_along f e fun i name hmem => ?_
  rw [he] at hmem
  cases hmem

end Laws

mutual

/-- A pattern is orderly if every round of an unbounded repetition takes something, and where a
common start is drawn out of alternatives it allows one word at most. -/
def Orderly (f : Flags) : Expr → Prop
  | .iterate _ _ max _ sub =>
    (max = none → ∀ before after, ¬ f.Matches sub before [] after) ∧ Orderly f sub
  | .group _ (.capture _ _) sub => Orderly f sub
  | .group _ (.scoped items) sub => Orderly (f.set items) sub
  | .alternation _ items =>
    OrderlyEach f items ∧ ∀ fs g, f.forms items = .ok (fs, g) → Form.Steady fs
  | .concat _ items => OrderlyEach f items
  | .empty _ | .flags _ _ | .literal _ | .dot _ | .assertion _ _ | .property _ _ _ | .short _ _ _
  | .bracketed _ _ _ => True

def OrderlyEach (f : Flags) : List Expr → Prop
  | [] => True
  | e :: rest => Orderly f e ∧ OrderlyEach (f.behind e) rest

end

section Check

open Form (sharedStart? branches)

mutual

/-- A pattern that can be seen to be orderly: no start is drawn out of alternatives at all, and
every way through what is repeated without bound takes something. -/
def tidy (f : Flags) : Expr → Bool
  | .iterate _ _ max _ sub =>
    (max.isSome || (f.form sub).toOption.any fun r => r.1.takes) && tidy f sub
  | .group _ (.capture _ _) sub => tidy f sub
  | .group _ (.scoped items) sub => tidy (f.set items) sub
  | .alternation _ items =>
    tidyEach f items && (f.forms items).toOption.all fun r =>
      (sharedStart? (r.1.flatMap branches)).isNone
  | .concat _ items => tidyEach f items
  | .empty _ | .flags _ _ | .literal _ | .dot _ | .assertion _ _ | .property _ _ _ | .short _ _ _
  | .bracketed _ _ _ => true

def tidyEach (f : Flags) : List Expr → Bool
  | [] => true
  | e :: rest => tidy f e && tidyEach (f.behind e) rest

end

mutual

theorem orderly_of_tidy (f : Flags) (e : Expr) (he : e.Sound) (h : f.tidy e = true) :
    f.Orderly e := by
  cases e with
  | iterate span min max greedy sub =>
    obtain ⟨hmax, hsub⟩ := Bool.and_eq_true_iff.mp h
    refine ⟨?_, orderly_of_tidy f sub he.2 hsub⟩
    rintro rfl
    cases hform : f.form sub with
    | error e =>
      rw [hform] at hmax
      cases hmax
    | ok r =>
      rw [hform] at hmax
      obtain ⟨-, hmatches, -⟩ := form_eq_ok f sub he.2 hform
      rw [← hmatches]
      exact Form.not_matches_nil hmax
  | group span kind sub =>
    rcases kind with ⟨i, name⟩ | items
    · exact orderly_of_tidy f sub he h
    · exact orderly_of_tidy (f.set items) sub he h
  | alternation span items =>
    obtain ⟨hitems, hstart⟩ := Bool.and_eq_true_iff.mp h
    refine ⟨orderlyEach_of_tidy f items he hitems, fun fs g hfs => ?_⟩
    rw [hfs] at hstart
    exact Form.steady_of_isNone hstart
  | concat span items => exact orderlyEach_of_tidy f items he h
  | _ => trivial

theorem orderlyEach_of_tidy (f : Flags) (es : List Expr) (he : Expr.AllSound es)
    (h : f.tidyEach es = true) :
    f.OrderlyEach es := by
  cases es with
  | nil => trivial
  | cons e es =>
    obtain ⟨hfirst, hrest⟩ := Bool.and_eq_true_iff.mp h
    exact ⟨orderly_of_tidy f e he.1 hfirst, orderlyEach_of_tidy (f.behind e) es he.2 hrest⟩

end

end Check

section Form

theorem attempt_of_fixed {f g : Flags} {form : Form} {e : Expr} (he : e.Sound)
    (h : f.form e = .ok (form, g)) (hgroups : e.groups = []) (hfixed : (f.Matches e).Fixed) :
    form.attempt named = f.attempt named e := by
  obtain ⟨-, hmatches, hsound⟩ := form_eq_ok f e he h
  have hnone : form.groups = [] := List.sublist_nil.mp (hgroups ▸ groups_form e h)
  have hfollows : (form.attempt named).Follows (f.Matches e) :=
    (Form.attempt_follows hsound.regular).of_eq hmatches
  exact hfollows.eq_of_fixed (attempt_follows f e he) hfixed (Form.attempt_bare hnone)
    (attempt_bare hgroups)

theorem fixed_classWords (f : Flags) (found : Except SyntaxError Intervals) :
    (f.classWords found).Fixed := by
  intro before u v u' v' heq hu hu'
  obtain ⟨s, hs, hu⟩ := hu
  obtain ⟨s', hs', hu'⟩ := hu'
  obtain rfl := Except.ok.inj (hs.symm.trans hs')
  exact fixed_spells f.domain s heq hu hu'

theorem fixed_literalWords (f : Flags) (l : Literal) : (f.literalWords l).Fixed := by
  intro before u v u' v' heq hu hu'
  unfold literalWords at hu hu'
  split at hu
  · next h =>
    rw [if_pos h] at hu'
    exact hu.trans hu'.symm
  · next h =>
    rw [if_neg h] at hu'
    exact fixed_spells .scalar _ heq hu hu'

mutual

/-- The normal form of an orderly pattern has the order of preference in which the pattern is
written. -/
theorem attempt_form (f : Flags) {g : Flags} {form : Form} (e : Expr) (he : e.Sound)
    (ho : f.Orderly e) (h : f.form e = .ok (form, g)) : form.attempt named = f.attempt named e := by
  cases e with
  | empty | flags => exact attempt_of_fixed he h rfl fixed_nothing
  | literal l => exact attempt_of_fixed he h rfl (fixed_literalWords f l)
  | dot => exact attempt_of_fixed he h rfl (fixed_spells _ _)
  | assertion span a => exact attempt_of_fixed he h rfl (fixed_look _)
  | property => exact attempt_of_fixed he h rfl (fixed_classWords f _)
  | short => exact attempt_of_fixed he h rfl (fixed_spells _ _)
  | bracketed => exact attempt_of_fixed he h rfl (fixed_classWords f _)
  | iterate span min max greedy sub =>
    obtain ⟨inner, hinner, rfl⟩ := form_iterate_eq_ok.mp h
    obtain ⟨rfl, -, hsound⟩ := form_eq_ok f sub he.2 hinner
    rw [Form.attempt_iterated min max _ hsound, attempt_form f sub he.2 ho.2 hinner, attempt]
  | group span kind sub =>
    rcases kind with ⟨i, name⟩ | items
    · obtain ⟨inner, g', hinner, rfl, -⟩ := form_capture_eq_ok.mp h
      rw [Form.attempt, attempt_form f sub he ho hinner, attempt]
    · obtain ⟨g', hinner, -⟩ := form_scoped_eq_ok.mp h
      rw [attempt_form (f.set items) sub he ho hinner, attempt]
  | alternation span items =>
    obtain ⟨branches, hbranches, rfl⟩ := form_alternation_eq_ok.mp h
    obtain ⟨-, -, hsound⟩ := forms_eq_ok f items he hbranches
    rw [Form.attempt_alternate hsound (ho.2 _ _ hbranches),
      attempt_forms f items he ho.1 hbranches, attempt]
  | concat span items =>
    obtain ⟨parts, hparts, rfl⟩ := form_concat_eq_ok.mp h
    rw [Form.attempt_concat, attempt_forms f items he ho hparts, attempt]

theorem attempt_forms (f : Flags) {g : Flags} {fs : List Form} (es : List Expr)
    (he : Expr.AllSound es) (ho : f.OrderlyEach es) (h : f.forms es = .ok (fs, g)) :
    fs.map (Form.attempt named) = f.attempts named es := by
  cases es with
  | nil =>
    obtain ⟨rfl, -⟩ := forms_nil_eq_ok.mp h
    rfl
  | cons e es =>
    obtain ⟨first, _, others, hfirst, hothers, rfl⟩ := forms_cons_eq_ok.mp h
    obtain ⟨rfl, -⟩ := form_eq_ok f e he.1 hfirst
    rw [List.map_cons, attempt_form f e he.1 ho.1 hfirst,
      attempt_forms (f.behind e) es he.2 ho.2 hothers, attempts]

end

end Form

end Flags

section Loops

namespace Form

def loops : Form → List Form
  | .iterate _ none _ sub => sub :: sub.loops
  | .iterate _ (some _) _ sub | .group _ _ sub => sub.loops
  | .seq a b | .alt a b => a.loops ++ b.loops
  | .empty | .look _ | .literal _ | .bytes _ | .chars _ => []

def Gaining (f : Form) : Prop := ∀ g ∈ f.loops, ∀ before after, ¬ g.Matches before [] after

theorem gathers_loops : Gathers loops :=
  ⟨rfl, fun _ => rfl, fun _ => rfl, fun _ => rfl, fun _ _ => rfl, fun _ _ => rfl⟩

variable {f g : Form}

theorem mem_loops_iterate {min : Nat} {max : Option Nat} {greedy : Bool}
    (h : g ∈ (iterate min max greedy f).loops) : (max = none ∧ g = f) ∨ g ∈ f.loops := by
  cases max with
  | none => exact (List.mem_cons.mp h).imp_left fun h => ⟨rfl, h⟩
  | some m => exact Or.inr h

theorem mem_loops_iterated {min : Nat} {max : Option Nat} {greedy : Bool}
    (h : g ∈ (iterated min max greedy f).loops) : (max = none ∧ g = f) ∨ g ∈ f.loops := by
  obtain ⟨lo, hi, heq, hor⟩ := iterated_eq min max greedy f
  have hmax : hi = none → max = none := by
    rintro rfl
    rcases hor with ⟨-, hhi⟩ | ⟨-, -, hhi⟩
    · exact hhi.symm
    · cases hhi
  rw [heq] at h
  split at h
  · cases h
  split at h
  · exact Or.inr h
  · exact (mem_loops_iterate h).imp_left fun h => ⟨hmax h.1, h.2⟩

end Form

namespace Flags

open Form (gathers_loops)

mutual

theorem gaining_form (f : Flags) {g : Flags} {form : Form} (e : Expr) (he : e.Sound)
    (ho : f.Orderly e) (h : f.form e = .ok (form, g)) : form.Gaining := by
  have hnone : ∀ form : Form, form.loops = [] → form.Gaining := fun form h g hg => by
    rw [h] at hg
    cases hg
  cases e with
  | empty | flags | assertion =>
    obtain ⟨rfl, -⟩ := Prod.mk.inj (Except.ok.inj h)
    exact hnone _ rfl
  | literal l =>
    obtain ⟨rfl, -⟩ := Prod.mk.inj (Except.ok.inj h)
    exact hnone _ (gathers_loops.letter f l)
  | dot | short =>
    obtain ⟨rfl, -⟩ := Prod.mk.inj (Except.ok.inj h)
    exact hnone _ (gathers_loops.classOf _ _)
  | property =>
    obtain ⟨s, -, rfl, -⟩ := form_property_eq_ok.mp h
    exact hnone _ (gathers_loops.classOf _ _)
  | bracketed =>
    obtain ⟨s, -, rfl, -⟩ := form_bracketed_eq_ok.mp h
    exact hnone _ (gathers_loops.classOf _ _)
  | iterate span min max greedy sub =>
    obtain ⟨inner, hinner, rfl⟩ := form_iterate_eq_ok.mp h
    obtain ⟨-, hmatches, -⟩ := form_eq_ok f sub he.2 hinner
    intro k hk
    rcases Form.mem_loops_iterated hk with ⟨hmax, rfl⟩ | hk
    · rw [hmatches]
      exact ho.1 hmax
    · exact gaining_form f sub he.2 ho.2 hinner k hk
  | group span kind sub =>
    rcases kind with ⟨i, name⟩ | items
    · obtain ⟨inner, g', hinner, rfl, -⟩ := form_capture_eq_ok.mp h
      have hsub : inner.Gaining := gaining_form f sub he ho hinner
      exact hsub
    · obtain ⟨g', hinner, -⟩ := form_scoped_eq_ok.mp h
      exact gaining_form (f.set items) sub he ho hinner
  | alternation span items =>
    obtain ⟨branches, hbranches, rfl⟩ := form_alternation_eq_ok.mp h
    intro k hk
    obtain ⟨b, hb, hk⟩ := List.mem_flatMap.mp ((gathers_loops.alternate branches).subset hk)
    exact gaining_forms f items he ho.1 hbranches b hb k hk
  | concat span items =>
    obtain ⟨parts, hparts, rfl⟩ := form_concat_eq_ok.mp h
    intro k hk
    rw [gathers_loops.concat] at hk
    obtain ⟨b, hb, hk⟩ := List.mem_flatMap.mp hk
    exact gaining_forms f items he ho hparts b hb k hk

theorem gaining_forms (f : Flags) {g : Flags} {fs : List Form} (es : List Expr)
    (he : Expr.AllSound es) (ho : f.OrderlyEach es) (h : f.forms es = .ok (fs, g)) :
    ∀ form ∈ fs, form.Gaining := by
  cases es with
  | nil =>
    obtain ⟨rfl, -⟩ := forms_nil_eq_ok.mp h
    simp
  | cons e es =>
    obtain ⟨first, _, others, hfirst, hothers, rfl⟩ := forms_cons_eq_ok.mp h
    obtain ⟨rfl, -⟩ := form_eq_ok f e he.1 hfirst
    exact List.forall_mem_cons.mpr
      ⟨gaining_form f e he.1 ho.1 hfirst, gaining_forms (f.behind e) es he.2 ho.2 hothers⟩

end

end Flags

end Loops

end Keypad.Pattern
