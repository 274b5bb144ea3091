import Keypad.Grammar
import Keypad.Proofs.Contract
import Keypad.Proofs.Gathering
import Keypad.Proofs.RoundTrip
/-!
The pattern from which tags are read. Its text is read as what the form is read as, between the two
ends of the text; so it looks at no condition that the form does not look at, and it matches a text
only from end to end.
-/
namespace Keypad.Pattern

open Form (gathers_looks)
open Flags (plain)

section Conditions

variable {f form : Form} {g : Flags}

@[simp] theorem Form.looks_lazily (f : Form) : f.lazily.looks = f.looks := by
  cases f <;> rfl

@[simp] theorem Form.looks_reread (f : Form) : f.reread.looks = f.looks := by
  induction f with
  | iterate min max greedy sub ih =>
    rw [Form.reread]
    split_ifs
    · rw [Form.looks_lazily]
      exact ih
    · exact (Form.looks_lazily sub.reread).trans ih
    · exact ih
    · exact ih
  | seq a b iha ihb | alt a b iha ihb => rw [Form.reread, Form.looks, Form.looks, iha, ihb]
  | _ => first | rfl | assumption

theorem Letter.looks {bs : List UInt8} {e : Expr} (h : Letter bs e)
    (hform : plain.form e = .ok (form, g)) :
    form.looks = [] := by
  cases h with
  | char l h =>
    obtain ⟨rfl, -⟩ := Prod.mk.inj (Except.ok.inj hform)
    exact gathers_looks.letter _ _
  | byte span l h hl =>
    obtain ⟨g', hinner, -⟩ := Flags.form_scoped_eq_ok.mp hform
    obtain ⟨rfl, -⟩ := Prod.mk.inj (Except.ok.inj hinner)
    exact gathers_looks.letter _ _

theorem Letters.looks {bs : List UInt8} {es : List Expr} {forms : List Form} (h : Letters bs es)
    (hforms : plain.forms es = .ok (forms, g)) : forms.flatMap Form.looks = [] := by
  induction h generalizing forms g with
  | nil =>
    obtain ⟨rfl, -⟩ := Flags.forms_nil_eq_ok.mp hforms
    rfl
  | @cons bs cs e es h t ih =>
    obtain ⟨first, g₁, others, hfirst, hothers, rfl⟩ := Flags.forms_cons_eq_ok.mp hforms
    have hplain : g₁ = plain := by
      cases h with
      | char l h => exact (Prod.mk.inj (Except.ok.inj hfirst)).2.symm
      | byte span l h hl =>
        obtain ⟨g', -, hplain⟩ := Flags.form_scoped_eq_ok.mp hfirst
        exact hplain
    subst hplain
    rw [List.flatMap_cons, h.looks hfirst, ih hothers]
    rfl

mutual

theorem Written.looks {f form : Form} {e : Expr} {g : Flags} (h : Written f e) (he : e.Sound)
    (hform : plain.form e = .ok (form, g)) : form.looks ⊆ f.looks := by
  cases h with
  | empty span inner | look span a | scopedLook span inner items a =>
    obtain ⟨rfl, -⟩ := Prod.mk.inj (Except.ok.inj hform)
    exact List.Subset.refl _
  | letter h =>
    rw [h.looks hform]
    exact List.nil_subset _
  | letters span inner h =>
    obtain ⟨g', hconcat, -⟩ := Flags.form_scoped_eq_ok.mp hform
    obtain ⟨parts, hparts, rfl⟩ := Flags.form_concat_eq_ok.mp hconcat
    rw [gathers_looks.concat, h.looks hparts]
    exact List.nil_subset _
  | fail span h | chars span h =>
    obtain ⟨t, -, rfl, -⟩ := Flags.form_bracketed_eq_ok.mp hform
    rw [gathers_looks.classOf]
    exact List.nil_subset _
  | bytes span inner h =>
    obtain ⟨g', hinner, -⟩ := Flags.form_scoped_eq_ok.mp hform
    obtain ⟨t, -, rfl, -⟩ := Flags.form_bracketed_eq_ok.mp hinner
    rw [gathers_looks.classOf]
    exact List.nil_subset _
  | iterate span min max greedy h =>
    obtain ⟨inner, hinner, rfl⟩ := Flags.form_iterate_eq_ok.mp hform
    have hsub : inner.looks ⊆ _ := Written.looks h he.2 hinner
    exact List.Subset.trans (gathers_looks.iterated (fun _ _ _ _ => rfl) _ _ _ _).subset hsub
  | group span i j name h =>
    obtain ⟨inner, g', hinner, rfl, -⟩ := Flags.form_capture_eq_ok.mp hform
    have hsub : inner.looks ⊆ _ := Written.looks h he hinner
    exact hsub
  | bracketed span h =>
    obtain ⟨g', hinner, -⟩ := Flags.form_scoped_eq_ok.mp hform
    exact Written.looks h he hinner
  | seq span inner h t =>
    obtain ⟨g', hconcat, -⟩ := Flags.form_scoped_eq_ok.mp hform
    obtain ⟨parts, hparts, rfl⟩ := Flags.form_concat_eq_ok.mp hconcat
    rw [gathers_looks.concat]
    exact WrittenParts.looks (.cons h t) he hparts
  | alt span inner h t =>
    obtain ⟨g', halternation, -⟩ := Flags.form_scoped_eq_ok.mp hform
    obtain ⟨branches, hbranches, rfl⟩ := Flags.form_alternation_eq_ok.mp halternation
    exact List.Subset.trans (gathers_looks.alternate _).subset
      (WrittenBranches.looks (.cons h t) he hbranches)

theorem WrittenParts.looks {f : Form} {forms : List Form} {es : List Expr} {g : Flags}
    (h : WrittenParts f es) (he : Expr.AllSound es) (hforms : plain.forms es = .ok (forms, g)) :
    forms.flatMap Form.looks ⊆ f.looks := by
  cases h with
  | last h =>
    obtain ⟨first, _, _, hfirst, hnil, rfl⟩ := Flags.forms_cons_eq_ok.mp hforms
    obtain ⟨rfl, -⟩ := Flags.forms_nil_eq_ok.mp hnil
    simpa using Written.looks h he.1 hfirst
  | cons h t =>
    obtain ⟨first, _, others, hfirst, hothers, rfl⟩ := Flags.forms_cons_eq_ok.mp hforms
    obtain rfl := (Flags.form_eq_ok _ _ he.1 hfirst).1
    rw [(h.matches he.1 hfirst).1] at hothers
    exact List.append_subset.mpr
      ⟨List.subset_append_of_subset_left _ (Written.looks h he.1 hfirst),
        List.subset_append_of_subset_right _ (WrittenParts.looks t he.2 hothers)⟩

theorem WrittenBranches.looks {f : Form} {forms : List Form} {es : List Expr} {g : Flags}
    (h : WrittenBranches f es) (he : Expr.AllSound es) (hforms : plain.forms es = .ok (forms, g)) :
    forms.flatMap Form.looks ⊆ f.looks := by
  cases h with
  | last h =>
    obtain ⟨first, _, _, hfirst, hnil, rfl⟩ := Flags.forms_cons_eq_ok.mp hforms
    obtain ⟨rfl, -⟩ := Flags.forms_nil_eq_ok.mp hnil
    simpa using Written.looks h he.1 hfirst
  | cons h t =>
    obtain ⟨first, _, others, hfirst, hothers, rfl⟩ := Flags.forms_cons_eq_ok.mp hforms
    obtain rfl := (Flags.form_eq_ok _ _ he.1 hfirst).1
    rw [(h.matches he.1 hfirst).1] at hothers
    exact List.append_subset.mpr
      ⟨List.subset_append_of_subset_left _ (Written.looks h he.1 hfirst),
        List.subset_append_of_subset_right _ (WrittenBranches.looks t he.2 hothers)⟩

end

end Conditions

namespace Parser

variable {s z : State}

theorem State.Follows.ends (h : s.Follows z) (htext : s.cursor.rest = []) {fuel : Nat}
    (hfuel : z.cursor.rest.length ≤ fuel) : Parser.run fuel z = .ok s := by
  obtain ⟨n, hn, hrun⟩ := h.run
  have hskip : s.cursor.skip s.verbose = s.cursor := by rw [h.verbose]; rfl
  have hend : s.cursor.atEnd = true := by simp [Cursor.atEnd, htext]
  rw [show fuel = (fuel - n) + n by omega, hrun, Parser.run.eq_def]
  simp only [hskip, hend, if_true]

end Parser

open Keypad.Pattern.Parser

namespace Form

def anchored (f : Form) : Form := .seq (.look .textStart) (.seq f (.look .textEnd))

variable {f : Form}

theorem looks_anchored (f : Form) : f.anchored.looks = .textStart :: (f.looks ++ [.textEnd]) := rfl

theorem append_ends {R : Between} {before word after : List UInt8} :
    ((Form.look .textStart).Matches.append (R.append (Form.look .textEnd).Matches))
      before word after ↔
      before = [] ∧ after = [] ∧ R [] word [] := by
  have hnone : ∀ b : Option UInt8, (Edge.ofByte? b == .none) = true ↔ b = none := by
    intro b
    cases b with
    | none => exact iff_of_true rfl rfl
    | some b => exact iff_of_false (by simp [Edge.ofByte?]) (by simp)
  have hstart : ∀ after, (Form.look .textStart).Matches before [] after ↔ before = [] :=
    fun after => (and_iff_right rfl).trans ((hnone _).trans List.getLast?_eq_none_iff)
  have hend : ∀ before, (Form.look .textEnd).Matches before [] after ↔ after = [] := fun before =>
    (and_iff_right rfl).trans ((hnone _).trans List.head?_eq_none_iff)
  constructor
  · rintro ⟨_, _, rfl, ⟨rfl, hbefore⟩, v, _, rfl, hmatch, ⟨rfl, hafter⟩⟩
    obtain rfl := (hstart _).mp ⟨rfl, hbefore⟩
    obtain rfl := (hend _).mp ⟨rfl, hafter⟩
    refine ⟨rfl, rfl, ?_⟩
    simpa using hmatch
  · rintro ⟨rfl, rfl, hmatch⟩
    exact ⟨[], word, rfl, (hstart _).mpr rfl, word, [], by simp, by simpa using hmatch,
      (hend _).mpr rfl⟩

theorem matches_anchored {before word after : List UInt8} :
    f.anchored.Matches before word after ↔ before = [] ∧ after = [] ∧ f.Language word := append_ends

/-- The anchored text of a form is read as what the form is read as, between the ends of the text;
all that is left to ask is how deep its parts nest. -/
theorem parse_anchoredText (hsound : f.Sound) (htitled : f.Titled) (hnodup : f.names.Nodup)
    (hbytes : f.Bytewise) :
    ∃ span es, WrittenParts f.reread.anchored es ∧
      Expr.parse (Grammar.anchoredText f) = (Nesting.check (.concat span es)).map fun _ =>
        .concat span es := by
  have htext : (Grammar.anchoredText f).toList =
      ['^'] ++ ('(' :: '?' :: ([] ++ ':' :: (Printer.form .other f ++ [')'])) ++ ['$']) := by
    simp [Grammar.anchoredText, Form.render, String.toList_append]
  have hstart := State.numbered_start (Grammar.anchoredText f)
  obtain ⟨e₁, ⟨first, rfl⟩, s₁, hfollows₁, htext₁, hrow₁, hframes₁⟩ :=
    reads_lineStart _ _ _ (.refl rfl hstart) htext trivial
  have hfree₁ : s₁.Free f.names := by
    have hfree : (State.start (Grammar.anchoredText f)).Free ([] ++ f.names) := hnodup
    exact hfree.behind rfl hrow₁ hframes₁
  obtain ⟨second, es, row, stop, ⟨e', rfl, he'⟩, hrow, s₂, hfollows₂, htext₂, hrow₂, hframes₂⟩ :=
    (hfollows₁.enters_scoped .none (by simpa using htext₁)).encloses
      (Q := fun es => ∃ e, es = [e] ∧ Written f.reread e) fun s' hfollows' htext' hfree' => by
        obtain ⟨e, he, hadds⟩ :=
          (readable hsound htitled hbytes).one s' _ (')' :: ['$']) hfollows' htext'
          (hfree' f.names hfree₁) fun _ => by simp [NoMark]
        exact ⟨[e], ⟨e, rfl, he⟩, hadds⟩
  rw [Row.toExpr_of_single hrow] at hrow₂
  obtain ⟨e₃, ⟨third, rfl⟩, s₃, hfollows₃, htext₃, hrow₃, hframes₃⟩ :=
    reads_lineEnd s₂ _ [] hfollows₂ htext₂ trivial
  have hitems : s₃.row.items = [.assertion first .lineStart, .group second (.scoped []) e',
      .assertion third .lineEnd].reverse := by
    rw [hrow₃, hrow₂, hrow₁]
    rfl
  have hnone : s₃.frames = [] := by rw [hframes₃, hframes₂, hframes₁]; rfl
  have hrun : run ((Grammar.anchoredText f).length + 1)
      (State.start (Grammar.anchoredText f)) = .ok s₃ :=
    hfollows₃.ends htext₃ (Nat.le_succ_of_le (Nat.le_of_eq String.length_toList))
  have hfinish : finish s₃ = .ok (s₃.row.toExpr s₃.cursor.offset) := by
    unfold finish
    rw [hnone]
    rfl
  rw [Row.toExpr_of_many hitems (by simp)] at hfinish
  refine ⟨⟨s₃.row.start, s₃.cursor.offset⟩, _,
    .cons (.look first .lineStart)
      (.cons (.bracketed second he') (.last (.look third .lineEnd))), ?_⟩
  unfold Expr.parse
  rw [hrun]
  simp only [bind, Except.bind]
  rw [hfinish]
  dsimp only
  cases Nesting.check (.concat ⟨s₃.row.start, s₃.cursor.offset⟩ [.assertion first .lineStart,
    .group second (.scoped []) e', .assertion third .lineEnd]) <;> rfl

theorem anchored_parse (hsound : f.Sound) (htitled : f.Titled) (hnodup : f.names.Nodup)
    (hbytes : f.Bytewise) {e : Expr} (h : Expr.parse (Grammar.anchoredText f) = .ok e) :
    ∃ span es, WrittenParts f.reread.anchored es ∧ e = .concat span es := by
  obtain ⟨span, es, hwritten, hparse⟩ := parse_anchoredText hsound htitled hnodup hbytes
  refine ⟨span, es, hwritten, ?_⟩
  rw [hparse] at h
  cases hcheck : Nesting.check (.concat span es) with
  | error err =>
    rw [hcheck] at h
    cases h
  | ok _ =>
    rw [hcheck] at h
    exact (Except.ok.inj h).symm

end Form

end Keypad.Pattern
