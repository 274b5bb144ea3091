import Keypad.CommandLine.Reply
import Keypad.Proofs.Loosening
/-!
The two stages in which a grammar is compiled. What the first refuses, the second never gets to see;
what the second refuses was compiled by the first. The second reads the written form of the pattern,
and as long as no class holds characters beyond ASCII that text can be read again, unless it nests
too deep; then the limit of the size alone decides.
-/
namespace Keypad

open Keypad.Pattern
open Flags (plain)

namespace Pattern

/-- No class of characters holds any beyond ASCII. -/
def Form.Ascii : Form → Prop
  | .chars s => isAscii s = true
  | .iterate _ _ _ sub | .group _ _ sub => sub.Ascii
  | .seq a b | .alt a b => a.Ascii ∧ b.Ascii
  | .empty | .look _ | .literal _ | .bytes _ => True

namespace Form.Ascii

variable {f : Form}

theorem lazily (h : f.Ascii) : f.lazily.Ascii := by
  cases f <;> exact h

theorem reread (h : f.Ascii) : f.reread.Ascii := by
  induction f with
  | iterate min max greedy sub ih =>
    rw [Form.reread]
    split_ifs
    · exact (ih h).lazily
    · exact (ih h).lazily
    · exact ih h
    · exact ih h
  | group i name sub ih => exact ih h
  | seq a b iha ihb | alt a b iha ihb => exact ⟨iha h.1, ihb h.2⟩
  | empty | look | literal | bytes | chars => exact h

theorem anchored (h : f.Ascii) : f.anchored.Ascii := ⟨trivial, h, trivial⟩

end Form.Ascii

section Forms

theorem Letter.form_ok {bs : List UInt8} {e : Expr} (h : Letter bs e) :
    ∃ form, plain.form e = .ok (form, plain) := by
  cases h with
  | char l h => exact ⟨_, rfl⟩
  | byte span l h hl => exact ⟨_, rfl⟩

theorem forms_cons {e : Expr} {es : List Expr} (h : ∃ form, plain.form e = .ok (form, plain))
    (ht : ∃ forms, plain.forms es = .ok (forms, plain)) :
    ∃ forms, plain.forms (e :: es) = .ok (forms, plain) := by
  obtain ⟨first, hfirst⟩ := h
  obtain ⟨others, hothers⟩ := ht
  exact ⟨_, Flags.forms_cons_eq_ok.mpr ⟨_, _, _, hfirst, hothers, rfl⟩⟩

theorem forms_nil : ∃ forms, plain.forms [] = .ok (forms, plain) := ⟨_, rfl⟩

theorem Letters.forms_ok {bs : List UInt8} {es : List Expr} (h : Letters bs es) :
    ∃ forms, plain.forms es = .ok (forms, plain) := by
  induction h with
  | nil => exact forms_nil
  | cons h _ ih => exact forms_cons h.form_ok ih

theorem Inside.form_ok {readable : Prop} {s : Charset.Intervals} {body : ClassExpr}
    (h : Inside readable s body) (hread : readable) (span : Span) :
    ∃ form, plain.form (.bracketed span false body) = .ok (form, plain) := by
  obtain ⟨t, ht⟩ := h.reads.mpr hread
  exact ⟨_, Flags.form_bracketed_eq_ok.mpr ⟨t, ht, rfl, rfl⟩⟩

mutual

theorem Written.form_ok {f : Form} {e : Expr} (h : Written f e) (ha : f.Ascii) :
    ∃ form, plain.form e = .ok (form, plain) := by
  cases h with
  | empty | look | scopedLook => exact ⟨_, rfl⟩
  | letter h => exact h.form_ok
  | letters span inner h =>
    obtain ⟨forms, hforms⟩ := h.forms_ok
    exact ⟨_, Flags.form_scoped_eq_ok.mpr ⟨_, Flags.form_concat_eq_ok.mpr ⟨_, hforms, rfl⟩, rfl⟩⟩
  | fail span h => exact h.form_ok trivial span
  | bytes span inner h =>
    obtain ⟨form, hform⟩ := h.form_ok trivial inner
    exact ⟨_, Flags.form_scoped_eq_ok.mpr ⟨_, hform, rfl⟩⟩
  | chars span h => exact h.form_ok ha span
  | iterate span min max greedy h =>
    obtain ⟨form, hform⟩ := Written.form_ok h ha
    exact ⟨_, Flags.form_iterate_eq_ok.mpr ⟨_, hform, rfl⟩⟩
  | group span i j name h =>
    obtain ⟨form, hform⟩ := Written.form_ok h ha
    exact ⟨_, Flags.form_capture_eq_ok.mpr ⟨_, _, hform, rfl, rfl⟩⟩
  | bracketed span h =>
    obtain ⟨form, hform⟩ := Written.form_ok h ha
    exact ⟨_, Flags.form_scoped_eq_ok.mpr ⟨_, hform, rfl⟩⟩
  | seq span inner h t =>
    obtain ⟨forms, hforms⟩ := WrittenParts.forms_ok (.cons h t) ha
    exact ⟨_, Flags.form_scoped_eq_ok.mpr ⟨_, Flags.form_concat_eq_ok.mpr ⟨_, hforms, rfl⟩, rfl⟩⟩
  | alt span inner h t =>
    obtain ⟨forms, hforms⟩ := WrittenBranches.forms_ok (.cons h t) ha
    exact ⟨_, Flags.form_scoped_eq_ok.mpr
      ⟨_, Flags.form_alternation_eq_ok.mpr ⟨_, hforms, rfl⟩, rfl⟩⟩

theorem WrittenParts.forms_ok {f : Form} {es : List Expr} (h : WrittenParts f es) (ha : f.Ascii) :
    ∃ forms, plain.forms es = .ok (forms, plain) := by
  cases h with
  | last h => exact forms_cons (Written.form_ok h ha) forms_nil
  | cons h t => exact forms_cons (Written.form_ok h ha.1) (WrittenParts.forms_ok t ha.2)

theorem WrittenBranches.forms_ok {f : Form} {es : List Expr} (h : WrittenBranches f es)
    (ha : f.Ascii) :
    ∃ forms, plain.forms es = .ok (forms, plain) := by
  cases h with
  | last h => exact forms_cons (Written.form_ok h ha) forms_nil
  | cons h t => exact forms_cons (Written.form_ok h ha.1) (WrittenBranches.forms_ok t ha.2)

end

end Forms

namespace Nesting

variable {α β : Type}

def OnlyDepth (x : Except SyntaxError α) : Prop :=
  ∀ err, x = .error err → err.cause = .nestingExceeded limit

theorem OnlyDepth.ok (a : α) : OnlyDepth (.ok a) := nofun

theorem OnlyDepth.bind {x : Except SyntaxError α} {f : α → Except SyntaxError β} (hx : OnlyDepth x)
    (hf : ∀ a, OnlyDepth (f a)) : OnlyDepth (x >>= f) := by
  cases x with
  | error err =>
    rintro err' ⟨⟩
    exact hx err rfl
  | ok a => exact hf a

theorem onlyDepth_enter (depth : Nat) (span : Span) : OnlyDepth (enter depth span) := by
  intro err h
  unfold enter at h
  split_ifs at h
  obtain rfl := Except.error.inj h
  rfl

mutual

theorem onlyDepth_checkClass (depth : Nat) (c : ClassExpr) : OnlyDepth (checkClass depth c) := by
  cases c with
  | bracketed span negated body =>
    exact (onlyDepth_enter depth span).bind fun below => onlyDepth_checkClass below body
  | union span items =>
    exact (onlyDepth_enter depth span).bind fun below => onlyDepth_checkClasses below items
  | operation span op lhs rhs =>
    exact (onlyDepth_enter depth span).bind fun below =>
      (onlyDepth_checkClass below lhs).bind fun _ => onlyDepth_checkClass below rhs
  | _ => exact .ok ()

theorem onlyDepth_checkClasses (depth : Nat) (cs : List ClassExpr) :
    OnlyDepth (checkClasses depth cs) := by
  cases cs with
  | nil => exact .ok ()
  | cons c cs => exact (onlyDepth_checkClass depth c).bind fun _ => onlyDepth_checkClasses depth cs

end

mutual

theorem onlyDepth_checkExpr (depth : Nat) (e : Expr) : OnlyDepth (checkExpr depth e) := by
  cases e with
  | bracketed span negated body =>
    exact (onlyDepth_enter depth span).bind fun below => onlyDepth_checkClass below body
  | iterate span min max greedy sub | group span kind sub =>
    exact (onlyDepth_enter depth span).bind fun below => onlyDepth_checkExpr below sub
  | alternation span items | concat span items =>
    exact (onlyDepth_enter depth span).bind fun below => onlyDepth_checkExprs below items
  | _ => exact .ok ()

theorem onlyDepth_checkExprs (depth : Nat) (es : List Expr) : OnlyDepth (checkExprs depth es) := by
  cases es with
  | nil => exact .ok ()
  | cons e es => exact (onlyDepth_checkExpr depth e).bind fun _ => onlyDepth_checkExprs depth es

end

end Nesting

namespace Form

variable {f : Form}

/-- The anchored text of a form can be read again, unless it nests too deep. -/
theorem parse_anchoredText_ok (hsound : f.Sound) (htitled : f.Titled) (hnodup : f.names.Nodup)
    (hbytes : f.Bytewise) (ha : f.Ascii) :
    Nesting.OnlyDepth (parse false (Grammar.anchoredText f)) := by
  obtain ⟨span, es, hwritten, hparse⟩ := parse_anchoredText hsound htitled hnodup hbytes
  obtain ⟨forms, hforms⟩ := hwritten.forms_ok ha.reread.anchored
  have hform : ∃ form, Expr.toForm false (.concat span es) = .ok form :=
    ⟨_, Except.bind_eq_ok.mpr ⟨_, Flags.form_concat_eq_ok.mpr ⟨_, hforms, rfl⟩, rfl⟩⟩
  obtain ⟨form, hform⟩ := hform
  have hread : parse false (Grammar.anchoredText f) =
      (Nesting.check (.concat span es) >>= fun _ => Expr.toForm false (.concat span es)) := by
    rw [parse, hparse]
    cases Nesting.check (.concat span es) <;> rfl
  rw [hread, hform]
  exact (Nesting.onlyDepth_checkExpr 0 _).bind fun _ => .ok form

end Form

end Pattern

theorem Matcher.parse_anchoredText_ok {engine : Automaton.Engine} {pattern : String}
    {limits : Limits} {m : Matcher} (hm : compile engine pattern limits = .ok m)
    (ha : m.form.Ascii) :
    Nesting.OnlyDepth (Form.parse false (Grammar.anchoredText m.form)) := by
  obtain ⟨hbuilt, hsound, hparse, -⟩ := built_of_compile hm
  obtain ⟨htitled, hnodup⟩ := Form.titled_parse hparse
  refine Form.parse_anchoredText_ok hsound htitled hnodup (fun l hl => ?_) ha
  simpa using List.any_eq_false.mp hbuilt.ascii l hl

namespace CommandLine

variable {engine : Automaton.Engine} {pattern buffer : String} {mode : Mode} {json : Bool}
  {limits : Limits}

theorem exit_check : (check engine pattern limits).exit = 0 ↔
    ∃ m, Matcher.compile engine pattern limits = .ok m := by
  unfold check
  cases Matcher.compile engine pattern limits <;>
    simp [Reply.ofPatternError, Reply.failure, Reply.success]

theorem exit_trace {symbols : List Symbol} (h : Symbol.parse buffer = .ok symbols) :
    (trace engine pattern buffer json limits).exit = 0 ↔
    ∃ m, Matcher.compile engine pattern limits = .ok m := by
  unfold trace
  rw [h]
  dsimp only
  cases Matcher.compile engine pattern limits with
  | error e => simp [Reply.ofPatternError, Reply.failure]
  | ok m =>
    refine iff_of_true ?_ ⟨m, rfl⟩
    dsimp only
    split_ifs <;> rfl

theorem exit_classify {symbols : List Symbol} (h : Symbol.parse buffer = .ok symbols) :
    (classify engine pattern buffer mode json limits).exit = 0 ↔
    ∃ g, Grammar.compile engine pattern mode limits = .ok g := by
  unfold classify
  rw [h]
  dsimp only
  cases Grammar.compile engine pattern mode limits <;>
    simp [Reply.ofPatternError, Reply.failure, Reply.success]

end CommandLine

namespace Grammar

open Automaton

variable {engine : Engine} {pattern : String} {mode : Mode} {limits : Limits} {m : Matcher}

theorem compile_of_matcher_error {e : PatternError}
    (h : Matcher.compile engine pattern limits = .error e) :
    compile engine pattern mode limits = .error e := by
  rw [compile, h]

theorem compile_of_narrow (hm : Matcher.compile engine pattern limits = .ok m) {tagged : Form}
    (htagged : Form.parse false (anchoredText m.form) = .ok tagged) {n : Nat}
    (hsize : limits.size = some n) (hnarrow : n < engine.captures tagged) :
    compile engine pattern mode limits = .error ⟨pattern, (TagError.tooLarge n).message⟩ := by
  have htags : TagReader.compile engine false n (anchoredText m.form) = .error (.tooLarge n) := by
    rw [TagReader.compile, htagged]
    exact if_pos hnarrow
  simp only [compile, hm, hsize, Option.getD_some, htags]

/-- How the two stages of compilation agree. What the first refuses, the whole refuses with the same
error, and a grammar holds the matcher of the first. Behind the first stage only two things can go
wrong if no class holds characters beyond ASCII: the written form may nest too deep to be read
again, or the reader of tags takes more room than the limit allows. So a buffer of symbols is
classified only if it can be replayed, which it can just if the pattern passes the check. -/
theorem compile_stages (engine : Engine) (pattern : String) (mode : Mode) (limits : Limits) :
    (∀ e, Matcher.compile engine pattern limits = .error e →
      compile engine pattern mode limits = .error e) ∧
    (∀ g, compile engine pattern mode limits = .ok g →
      Matcher.compile engine pattern limits = .ok g.matcher) ∧
    (∀ m, Matcher.compile engine pattern limits = .ok m → m.form.Ascii →
      (∃ span, Form.parse false (anchoredText m.form) =
        .error ⟨.nestingExceeded Nesting.limit, span⟩) ∨
      ∃ tagged, Form.parse false (anchoredText m.form) = .ok tagged ∧
        (engine.captures tagged ≤ limits.size.getD Limits.tenMebibytes →
          compile engine pattern mode limits =
            .ok ⟨mode, m, ⟨Program.ofForm tagged, tagged.groups⟩⟩) ∧
        ∀ n, limits.size = some n → n < engine.captures tagged →
          compile engine pattern mode limits = .error ⟨pattern, (TagError.tooLarge n).message⟩) ∧
    ((CommandLine.check engine pattern limits).exit = 0 ↔
      ∃ m, Matcher.compile engine pattern limits = .ok m) ∧
    (∀ buffer symbols, Symbol.parse buffer = .ok symbols → ∀ json lines,
      ((CommandLine.check engine pattern limits).exit = 0 ↔
        (CommandLine.trace engine pattern buffer lines limits).exit = 0) ∧
      ((CommandLine.classify engine pattern buffer mode json limits).exit = 0 ↔
        ∃ g, compile engine pattern mode limits = .ok g) ∧
      ((CommandLine.classify engine pattern buffer mode json limits).exit = 0 →
        (CommandLine.check engine pattern limits).exit = 0)) := by
  have hmatcher : ∀ g, compile engine pattern mode limits = .ok g →
      Matcher.compile engine pattern limits = .ok g.matcher :=
    fun g hg => (compile_eq_ok_iff.mp hg).1
  refine ⟨fun e => compile_of_matcher_error, hmatcher, fun m hm ha => ?_, CommandLine.exit_check,
    fun buffer symbols hbuffer json lines => ?_⟩
  · cases hread : Form.parse false (anchoredText m.form) with
    | error err =>
      obtain ⟨cause, span⟩ := err
      obtain rfl : cause = .nestingExceeded Nesting.limit :=
        Matcher.parse_anchoredText_ok hm ha _ hread
      exact Or.inl ⟨span, rfl⟩
    | ok tagged =>
      refine Or.inr ⟨tagged, rfl, fun hroom => ?_,
        fun n hsize hnarrow => compile_of_narrow hm hread hsize hnarrow⟩
      exact compile_eq_ok_iff.mpr
        ⟨hm, rfl, TagReader.compile_eq_ok_iff.mpr ⟨tagged, hread, hroom, rfl⟩⟩
  · rw [CommandLine.exit_check, CommandLine.exit_trace hbuffer, CommandLine.exit_classify hbuffer]
    exact ⟨Iff.rfl, Iff.rfl, fun ⟨g, hg⟩ => ⟨g.matcher, hmatcher g hg⟩⟩

/-- Thirty-two empty groups fit into one kibibyte as a table, which has a few rows, but not as a
reader of tags, which has two instructions for each of them. The pattern passes the check and
classifies nothing. -/
theorem compiles_for_matcher_only :
    let pattern := String.join (List.replicate 32 "()")
    let limits : Limits := ⟨some 1024, some Limits.tenMebibytes, false⟩
    ¬ ((∃ g, compile .typical pattern .dtmf limits = .ok g) ↔
      ∃ m, Matcher.compile .typical pattern limits = .ok m) ∧
      (CommandLine.check .typical pattern limits).exit = 0 ∧
      (CommandLine.classify .typical pattern "1" .dtmf false limits).exit ≠ 0 := by
  intro pattern limits
  let groups : List Form := (List.range' 1 32).map fun i => .group i none .empty
  have hform : Form.parse false pattern = .ok (.ofParts groups) := by decide +kernel
  have htagged : Form.parse false (anchoredText (.ofParts groups)) =
      .ok (.ofParts (.look .textStart :: groups ++ [.look .textEnd])) := by decide +kernel
  obtain ⟨m, hm, hmform⟩ : ∃ m,
      Matcher.compile .typical pattern limits = .ok m ∧ m.form = .ofParts groups :=
    Matcher.exists_compile_ok_of_closed hform (by decide +kernel) (by decide +kernel)
      [⟨false, ⟨.other, [64]⟩⟩, ⟨true, ⟨.other, []⟩⟩, ⟨false, ⟨.other, []⟩⟩]
      (by decide +kernel) (by decide +kernel) (by decide +kernel)
  have hnone : ¬ ∃ g, compile .typical pattern .dtmf limits = .ok g := by
    rintro ⟨g, hg⟩
    rw [compile_of_narrow hm (hmform ▸ htagged) rfl (by decide +kernel)] at hg
    cases hg
  have hbuffer : Symbol.parse "1" = .ok [.digit1] := by decide
  exact ⟨fun hiff => hnone (hiff.mpr ⟨m, hm⟩), CommandLine.exit_check.mpr ⟨m, hm⟩,
    mt (CommandLine.exit_classify hbuffer).mp hnone⟩

end Grammar

end Keypad
