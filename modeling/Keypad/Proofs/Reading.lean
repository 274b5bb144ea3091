import Keypad.Proofs.Meaning
/-!
What reading a pattern can give. A character written as a byte is one, ranges run forward, counts
are in order: each reader keeps to this, so the whole pattern does. A step of the reader does one of
a few things, which are listed once.
-/
namespace Keypad.Pattern

open Keypad.Charset

def Primitive.Sound : Primitive → Prop
  | .literal l => l.Sound
  | _ => True

theorem Primitive.Sound.toClassItem {p : Primitive} (h : p.Sound) {e : ClassExpr}
    (he : p.toClassItem = .ok e) : e.Sound := by
  cases p with
  | literal l =>
    obtain rfl := Except.ok.inj he
    exact h
  | assertion span a => cases he
  | dot span => cases he
  | short span kind negated =>
    obtain rfl := Except.ok.inj he
    trivial
  | property span query negated =>
    obtain rfl := Except.ok.inj he
    trivial

theorem Primitive.Sound.toRangeEnd {p : Primitive} (h : p.Sound) {l : Literal}
    (hl : p.toRangeEnd = .ok l) : l.Sound := by
  cases p with
  | literal l' =>
    obtain rfl := Except.ok.inj hl
    exact h
  | _ => cases hl

namespace Parser

section Elements

variable {verbose : Bool} {start : Nat} {c c' : Cursor} {p : Primitive}

theorem hexValue?_lt {ch : Char} {d : Nat} (h : hexValue? ch = some d) : d < 16 := by
  have hle : ∀ {a b : Char}, a ≤ b → a.toNat ≤ b.toNat := fun h => h
  unfold hexValue? at h
  split at h
  · next hr =>
    obtain rfl := Option.some.inj h
    have := hle hr.2
    simp only [Char.reduceToNat] at this
    omega
  split at h
  · next hr =>
    obtain rfl := Option.some.inj h
    have := hle hr.2
    simp only [Char.reduceToNat] at this
    omega
  split at h
  · next hr =>
    obtain rfl := Option.some.inj h
    have := hle hr.2
    simp only [Char.reduceToNat] at this
    omega
  · cases h

theorem hexDigits_eq_ok {n : Nat} {ds : List Nat} (h : hexDigits verbose n c = .ok (ds, c')) :
    ds.length = n ∧ ∀ d ∈ ds, d < 16 := by
  induction n generalizing c c' ds with
  | zero =>
    obtain ⟨rfl, -⟩ := Prod.mk.inj (Except.ok.inj h)
    exact ⟨rfl, by simp⟩
  | succ n ih =>
    rw [hexDigits] at h
    split at h
    · cases h
    split at h
    · cases h
    · next d hd =>
      obtain ⟨⟨ds, c''⟩, hds, h⟩ := Except.bind_eq_ok.mp h
      obtain ⟨rfl, -⟩ := Prod.mk.inj (Except.ok.inj h)
      obtain ⟨hlength, hall⟩ := ih hds
      exact ⟨by simp [hlength], List.forall_mem_cons.mpr ⟨hexValue?_lt hd, hall⟩⟩

theorem scalar?_eq_some {ds : List Nat} {ch : Char} (h : scalar? ds = some ch) :
    ch.toNat = ds.foldl (fun n d => n * 16 + d) 0 := by
  unfold scalar? at h
  dsimp only at h
  obtain ⟨hvalid, h⟩ := Option.ite_none_right_eq_some.mp h
  obtain rfl := Option.some.inj h
  exact Text.Utf8.toNat_ofNat_of_valid hvalid

theorem sound_hex (h : hex verbose start c = .ok (p, c')) : p.Sound := by
  unfold hex at h
  extract_lets count c₀ at h
  split at h
  · cases h
  · obtain ⟨⟨ds, c₁⟩, hds, h⟩ := Except.bind_eq_ok.mp h
    dsimp only at h
    split at h
    · cases h
    split at h
    · cases h
    · obtain ⟨rfl, -⟩ := Prod.mk.inj (Except.ok.inj h)
      rintro ⟨⟩
  · obtain ⟨⟨ds, c₁⟩, hds, h⟩ := Except.bind_eq_ok.mp h
    dsimp only at h
    split at h
    · cases h
    · next ch hch =>
      obtain ⟨rfl, -⟩ := Prod.mk.inj (Except.ok.inj h)
      intro hbyte
      -- two digits give a number below 0x100
      obtain ⟨hlength, hall⟩ := hexDigits_eq_ok hds
      rw [of_decide_eq_true hbyte] at hlength
      obtain ⟨x, y, rfl⟩ := List.length_eq_two.mp hlength
      have hx := hall x (by simp)
      have hy := hall y (by simp)
      rw [scalar?_eq_some hch]
      simp only [List.foldl_cons, List.foldl_nil]
      omega

theorem sound_property (h : property verbose start c = .ok (p, c')) : p.Sound := by
  unfold property at h
  dsimp only at h
  split at h
  · cases h
  · split at h
    · cases h
    · obtain ⟨rfl, -⟩ := Prod.mk.inj (Except.ok.inj h)
      trivial
  · cases h
  · obtain ⟨rfl, -⟩ := Prod.mk.inj (Except.ok.inj h)
    trivial

theorem sound_escape (h : escape verbose c = .ok (p, c')) : p.Sound := by
  unfold escape at h
  dsimp only at h
  split at h
  · cases h
  split at h
  · cases h
  split at h
  · exact sound_hex h
  split at h
  · exact sound_property h
  split at h
  · obtain ⟨rfl, -⟩ := Prod.mk.inj (Except.ok.inj h)
    trivial
  split at h
  · obtain ⟨rfl, -⟩ := Prod.mk.inj (Except.ok.inj h)
    rintro ⟨⟩
  split at h
  · obtain ⟨rfl, -⟩ := Prod.mk.inj (Except.ok.inj h)
    rintro ⟨⟩
  split at h
  · obtain ⟨rfl, -⟩ := Prod.mk.inj (Except.ok.inj h)
    trivial
  · obtain ⟨rfl, -⟩ := Prod.mk.inj (Except.ok.inj h)
    trivial
  · obtain ⟨edge, -, h⟩ := Except.bind_eq_ok.mp h
    split at h
    · obtain ⟨rfl, -⟩ := Prod.mk.inj (Except.ok.inj h)
      trivial
    · obtain ⟨rfl, -⟩ := Prod.mk.inj (Except.ok.inj h)
      trivial
  · obtain ⟨rfl, -⟩ := Prod.mk.inj (Except.ok.inj h)
    trivial
  · obtain ⟨rfl, -⟩ := Prod.mk.inj (Except.ok.inj h)
    trivial
  · obtain ⟨rfl, -⟩ := Prod.mk.inj (Except.ok.inj h)
    trivial
  · cases h

theorem sound_primitive (h : primitive verbose c = .ok (p, c')) : p.Sound := by
  unfold primitive at h
  split at h
  · cases h
  · exact sound_escape h
  all_goals
    obtain ⟨rfl, -⟩ := Prod.mk.inj (Except.ok.inj h)
    first | trivial | exact nofun

theorem sound_classPrimitive (h : classPrimitive verbose c = .ok (p, c')) : p.Sound := by
  unfold classPrimitive at h
  split at h
  · exact sound_escape h
  · obtain ⟨rfl, -⟩ := Prod.mk.inj (Except.ok.inj h)
    exact nofun
  · cases h

end Elements

section Classes

variable {verbose : Bool} {opening : Nat} {c c' : Cursor} {m m' : Members} {e : ClassExpr}

def Members.Sound (m : Members) : Prop := ∀ e ∈ m.items, e.Sound

theorem Members.Sound.push (h : m.Sound) (he : e.Sound) : (m.push e).Sound :=
  List.forall_mem_cons.mpr ⟨he, h⟩

theorem sound_plain (span : Span) (ch : Char) : (ClassExpr.literal ⟨span, ch, false⟩).Sound := by
  rw [ClassExpr.Sound]
  exact nofun

theorem Members.sound_emptyAt (c : Cursor) : (emptyAt c).Sound := by simp [Members.Sound, emptyAt]

theorem Members.Sound.toExpr (h : m.Sound) : m.toExpr.Sound := by
  unfold Members.toExpr
  split
  · trivial
  · next e heq => exact h e (by simp [heq])
  · exact ClassExpr.allSound_iff.mpr fun e he => h e (List.mem_reverse.mp he)

def Pending.Sound (p : Pending) : Prop := ∀ op lhs, p = some (op, lhs) → lhs.Sound

theorem Pending.sound_none : Pending.Sound none := by
  rintro _ _ ⟨⟩

theorem Pending.Sound.close {p : Pending} (h : p.Sound) (he : e.Sound) : (p.close e).Sound := by
  unfold Pending.close
  split
  · exact ⟨h _ _ rfl, he⟩
  · exact he

theorem sound_namedClass? (h : namedClass? c = some (e, c')) : e.Sound := by
  unfold namedClass? at h
  obtain ⟨inner, -, h⟩ := Option.bind_eq_some_iff.mp h
  dsimp only at h
  split at h
  all_goals
    obtain ⟨stop, -, h⟩ := Option.bind_eq_some_iff.mp h
    obtain ⟨kind, -, h⟩ := Option.bind_eq_some_iff.mp h
    obtain ⟨rfl, -⟩ := Prod.mk.inj (Option.some.inj h)
    trivial

theorem sound_classRange (h : classRange verbose opening c = .ok (e, c')) : e.Sound := by
  unfold classRange at h
  obtain ⟨⟨first, c₁⟩, hfirst, h⟩ := Except.bind_eq_ok.mp h
  have hfirst := sound_classPrimitive hfirst
  dsimp only at h
  split at h
  · cases h
  split at h
  · obtain ⟨item, hitem, h⟩ := Except.bind_eq_ok.mp h
    obtain ⟨rfl, -⟩ := Prod.mk.inj (Except.ok.inj h)
    exact hfirst.toClassItem hitem
  split at h
  · cases h
  · obtain ⟨⟨second, c₂⟩, hsecond, h⟩ := Except.bind_eq_ok.mp h
    obtain ⟨lo, hlo, h⟩ := Except.bind_eq_ok.mp h
    obtain ⟨hi, hhi, h⟩ := Except.bind_eq_ok.mp h
    split at h
    · next hle =>
      obtain ⟨rfl, -⟩ := Prod.mk.inj (Except.ok.inj h)
      exact ⟨hfirst.toRangeEnd hlo, (sound_classPrimitive hsecond).toRangeEnd hhi, hle⟩
    · cases h

theorem sound_leadingDashes {fuel : Nat} (hm : m.Sound)
    (h : leadingDashes verbose opening fuel m c = .ok (m', c')) : m'.Sound := by
  induction fuel generalizing m c with
  | zero =>
    obtain ⟨rfl, -⟩ := Prod.mk.inj (Except.ok.inj h)
    exact hm
  | succ fuel ih =>
    rw [leadingDashes] at h
    split at h
    · dsimp only at h
      split at h
      · cases h
      · exact ih (hm.push (sound_plain _ _)) h
    · obtain ⟨rfl, -⟩ := Prod.mk.inj (Except.ok.inj h)
      exact hm

theorem sound_classOpening {negated : Bool} (h : classOpening verbose c = .ok (negated, m, c')) :
    m.Sound := by
  unfold classOpening at h
  dsimp only at h
  split at h
  · cases h
  generalize (if (c.next verbose).head? = some '^' then (c.next verbose).next verbose
    else c.next verbose) = c₂ at h
  split at h
  · cases h
  · obtain ⟨⟨m₁, c₁⟩, hm, h⟩ := Except.bind_eq_ok.mp h
    have hm := sound_leadingDashes (Members.sound_emptyAt _) hm
    dsimp only at h
    split at h
    · split at h
      · cases h
      · simp only [pure, Except.pure, Except.ok.injEq, Prod.mk.injEq] at h
        obtain ⟨-, rfl, -⟩ := h
        exact hm.push (sound_plain _ _)
    · simp only [pure, Except.pure, Except.ok.injEq, Prod.mk.injEq] at h
      obtain ⟨-, rfl, -⟩ := h
      exact hm

theorem sound_class (fuel : Nat) :
    (∀ {c c' span negated body},
      bracketed verbose fuel c = .ok (span, negated, body, c') → body.Sound) ∧
    ∀ {opening pending m c c' body}, Pending.Sound pending → m.Sound →
      classBody verbose opening fuel pending m c = .ok (body, c') → body.Sound := by
  induction fuel with
  | zero => exact ⟨nofun, nofun⟩
  | succ fuel ih =>
    obtain ⟨ihClass, ihBody⟩ := ih
    constructor
    · intro c c' span negated body h
      rw [bracketed] at h
      obtain ⟨⟨neg, m, c₁⟩, hopening, h⟩ := Except.bind_eq_ok.mp h
      obtain ⟨⟨body', c₂⟩, hbody, h⟩ := Except.bind_eq_ok.mp h
      simp only [pure, Except.pure, Except.ok.injEq, Prod.mk.injEq] at h
      obtain ⟨-, -, rfl, -⟩ := h
      exact ihBody Pending.sound_none (sound_classOpening hopening) hbody
    · intro opening pending m c c' body hpending hm h
      rw [classBody] at h
      dsimp only at h
      split at h
      · cases h
      · split at h
        · next named c₁ hnamed => exact ihBody hpending (hm.push (sound_namedClass? hnamed)) h
        · obtain ⟨⟨span, negated, body', c₁⟩, hclass, h⟩ := Except.bind_eq_ok.mp h
          dsimp only at h
          have hbody : body'.Sound := ihClass hclass
          have hitem : (ClassExpr.bracketed span negated body').Sound := hbody
          exact ihBody hpending (hm.push hitem) h
      · obtain ⟨rfl, -⟩ := Prod.mk.inj (Except.ok.inj h)
        exact hpending.close hm.toExpr
      · split at h
        · next op c₁ hop =>
          refine ihBody ?_ (Members.sound_emptyAt _) h
          rintro _ _ ⟨⟩
          exact hpending.close hm.toExpr
        · obtain ⟨⟨item, c₁⟩, hitem, h⟩ := Except.bind_eq_ok.mp h
          exact ihBody hpending (hm.push (sound_classRange hitem)) h

end Classes

section Steps

variable {s s' : State}

def Plain : Expr → Prop
  | .flags _ _ | .dot _ | .assertion _ _ | .property _ _ _ | .short _ _ _ => True
  | .literal l => l.Sound
  | .bracketed _ _ body => body.Sound
  | .empty _ | .iterate _ _ _ _ _ | .group _ _ _ | .alternation _ _ | .concat _ _ => False

theorem Plain.sound {e : Expr} (h : Plain e) : e.Sound := by
  cases e with
  | literal l => exact h
  | bracketed span negated body => exact h
  | flags | dot | assertion | property | short => trivial
  | empty | iterate | group | alternation | concat => exact h.elim

theorem plain_toExpr {p : Primitive} (h : p.Sound) : Plain p.toExpr := by
  cases p with
  | literal l => exact h
  | _ => trivial

structure Named (names : List String) (name : String) : Prop where
  ne_nil : name.toList ≠ []
  first : ∀ c ∈ name.toList.head?, isNameChar true c = true ∧ c ≠ '>'
  rest : ∀ c ∈ name.toList.tail, isNameChar false c = true ∧ c ≠ '>'
  fresh : name ∉ names

/-- What a step of the reader can do. -/
inductive Moves (s : State) : State → Prop
  | plain {e : Expr} (verbose : Bool) (c : Cursor) (h : Plain e) :
    Moves s { s with cursor := c, verbose, row := s.row.push e }
  | repeated {e : Expr} {rest : List Expr} {min : Nat} {max : Option Nat} (greedy : Bool)
    (span : Span) (c : Cursor) (hitems : s.row.items = e :: rest) (h : Form.Counted min max) :
    Moves s { s with cursor := c, row := ⟨s.row.start, .iterate span min max greedy e :: rest⟩ }
  | named {name : String} (start : Nat) (c : Cursor) (h : Named s.names name) :
    Moves s (State.open { s with captures := s.captures + 1, names := name :: s.names } start
      (.capture (s.captures + 1) (some name)) s.verbose c)
  | unnamed (start : Nat) (c : Cursor) :
    Moves s (State.open { s with captures := s.captures + 1 } start (.capture (s.captures + 1) none)
      s.verbose c)
  | flagged (start : Nat) (items : List FlagItem) (verbose : Bool) (c : Cursor) :
    Moves s (s.open start (.scoped items) verbose c)
  | branch : Moves s (nextBranch s)
  | close {outer : Row} {start : Nat} {kind : GroupKind} {verbose : Bool} {body : Expr}
    {rest : List Frame} (stop : Nat) (c : Cursor)
    (h : collect s.row stop s.frames = (body, .group outer start kind verbose :: rest)) :
    Moves s { s with
      cursor := c, verbose
      row := outer.push (.group ⟨start, c.offset⟩ kind body)
      frames := rest }

theorem nameChars_eq_ok {first : Bool} {cs name : List Char} {n : Nat} {c : Cursor}
    (h : nameChars first cs n = .ok (name, c)) :
    (∀ ch ∈ name.head?, isNameChar first ch = true ∧ ch ≠ '>') ∧
      ∀ ch ∈ name.tail, isNameChar false ch = true ∧ ch ≠ '>' := by
  induction cs generalizing first name n c with
  | nil => cases h
  | cons ch cs ih =>
    rw [nameChars] at h
    split at h
    · obtain ⟨rfl, -⟩ := Prod.mk.inj (Except.ok.inj h)
      simp
    split at h
    · cases h
    · next hne hname =>
      obtain ⟨⟨rest, c'⟩, hrest, h⟩ := Except.bind_eq_ok.mp h
      obtain ⟨rfl, -⟩ := Prod.mk.inj (Except.ok.inj h)
      obtain ⟨hhead, htail⟩ := ih hrest
      refine ⟨by simpa using ⟨by simpa using hname, hne⟩, fun x hx => ?_⟩
      cases rest with
      | nil => cases hx
      | cons y rest =>
        rcases List.mem_cons.mp hx with rfl | hx
        · exact hhead x rfl
        · exact htail x hx

theorem groupName_eq_ok {names : List String} {name : String} {c c' : Cursor}
    (h : groupName names c = .ok (name, c')) : Named names name := by
  unfold groupName at h
  obtain ⟨⟨cs, c₁⟩, hcs, h⟩ := Except.bind_eq_ok.mp h
  obtain ⟨hfirst, hrest⟩ := nameChars_eq_ok hcs
  dsimp only at h
  split at h
  · cases h
  split at h
  · cases h
  · next hne hfresh =>
    obtain ⟨rfl, -⟩ := Prod.mk.inj (Except.ok.inj h)
    refine ⟨?_, ?_, ?_, ?_⟩
    · simpa using hne
    · simpa using hfirst
    · simpa using hrest
    · simpa using hfresh

theorem moves_openGroup (h : openGroup s = .ok s') : Moves s s' := by
  unfold openGroup at h
  dsimp only at h
  split at h
  · cases h
  split at h
  · obtain ⟨⟨name, c⟩, hname, h⟩ := Except.bind_eq_ok.mp h
    obtain rfl := Except.ok.inj h
    exact .named _ c (groupName_eq_ok hname)
  split at h
  · split at h
    · cases h
    · obtain ⟨⟨items, stop⟩, hitems, h⟩ := Except.bind_eq_ok.mp h
      dsimp only at h
      split at h
      · split at h
        · cases h
        · obtain rfl := Except.ok.inj h
          exact .plain _ _ trivial
      · obtain rfl := Except.ok.inj h
        exact .flagged _ items _ _
  · obtain rfl := Except.ok.inj h
    exact .unnamed _ _

theorem moves_closeGroup (h : closeGroup s = .ok s') : Moves s s' := by
  unfold closeGroup at h
  dsimp only at h
  cases hc : collect s.row s.cursor.offset s.frames with
  | mk body frames =>
    rw [hc] at h
    dsimp only at h
    split at h
    · obtain rfl := Except.ok.inj h
      exact .close _ _ hc
    · cases h

theorem operand_eq_ok {span : Span} {e : Expr} {row : Row} (h : operand s span = .ok (e, row)) :
    ∃ rest, s.row.items = e :: rest ∧ row = ⟨s.row.start, rest⟩ := by
  unfold operand at h
  split at h
  · cases h
  · cases h
  · cases h
  · next e' rest _ _ hitems =>
    obtain ⟨rfl, rfl⟩ := Prod.mk.inj (Except.ok.inj h)
    exact ⟨rest, hitems, rfl⟩

theorem moves_signRepetition {min : Nat} {max : Option Nat} (hcount : Form.Counted min max)
    (h : signRepetition s min max = .ok s') : Moves s s' := by
  unfold signRepetition at h
  obtain ⟨⟨e, row⟩, hoperand, h⟩ := Except.bind_eq_ok.mp h
  obtain ⟨rest, hitems, rfl⟩ := operand_eq_ok hoperand
  dsimp only at h
  split at h
  · obtain rfl := Except.ok.inj h
    exact .repeated false _ _ hitems hcount
  · obtain rfl := Except.ok.inj h
    exact .repeated true _ _ hitems hcount

theorem count_eq_ok {verbose : Bool} {c : Cursor} {n : Nat} (h : (count verbose c).1 = .ok n) :
    n ≤ maxCount := by
  unfold count at h
  dsimp only at h
  split at h
  · cases h
  split at h
  · next hle =>
    obtain rfl := Except.ok.inj h
    exact hle
  · cases h

theorem moves_closeCount {e : Expr} {rest : List Expr} {start min : Nat}
    {max : Option Nat} {c : Cursor} (hitems : s.row.items = e :: rest) (hmin : min ≤ maxCount)
    (hmax : ∀ m ∈ max, m ≤ maxCount)
    (h : closeCount s ⟨s.row.start, rest⟩ e start min max c = .ok s') : Moves s s' := by
  unfold closeCount at h
  split at h
  · cases h
  dsimp only at h
  split at h
  · next hle =>
    obtain rfl := Except.ok.inj h
    refine .repeated _ _ _ hitems ⟨hmin, fun m hm => ?_⟩
    obtain rfl : max = some m := hm
    exact ⟨by simpa using hle, hmax m rfl⟩
  · cases h

theorem moves_countedRepetition (h : countedRepetition s = .ok s') : Moves s s' := by
  unfold countedRepetition at h
  obtain ⟨⟨e, row⟩, hoperand, h⟩ := Except.bind_eq_ok.mp h
  obtain ⟨rest, hitems, rfl⟩ := operand_eq_ok hoperand
  dsimp only at h
  split at h
  · cases h
  split at h
  · cases h
  split at h
  · split at h
    · cases h
    split at h
    · obtain ⟨min, hmin, h⟩ := Except.bind_eq_ok.mp h
      exact moves_closeCount hitems (count_eq_ok hmin) (by simp) h
    · obtain ⟨min, hmin, h⟩ := Except.bind_eq_ok.mp h
      obtain ⟨max, hmax, h⟩ := Except.bind_eq_ok.mp h
      refine moves_closeCount hitems (count_eq_ok hmin) (fun m hm => ?_) h
      obtain rfl := Option.some.inj hm
      exact count_eq_ok hmax
  · obtain ⟨n, hn, h⟩ := Except.bind_eq_ok.mp h
    refine moves_closeCount hitems (count_eq_ok hn) (fun m hm => ?_) h
    obtain rfl := Option.some.inj hm
    exact count_eq_ok hn

theorem moves_step (h : step s = .ok s') : Moves s s' := by
  have hcounted : ∀ {m n : Nat}, m ≤ 1 → n ≤ 1 → m ≤ n → Form.Counted m (some n) := by
    intro m n hm hn hle
    have hmax : maxCount = 2 ^ 32 - 1 := rfl
    refine ⟨by omega, fun k hk => ?_⟩
    obtain rfl := Option.some.inj hk
    omega
  have hunbounded : ∀ {m : Nat}, m ≤ 1 → Form.Counted m none := by
    intro m hm
    have hmax : maxCount = 2 ^ 32 - 1 := rfl
    exact ⟨by omega, by simp⟩
  unfold step at h
  split at h
  · exact moves_openGroup h
  · exact moves_closeGroup h
  · obtain rfl := Except.ok.inj h
    exact .branch
  · obtain ⟨⟨span, negated, body, c⟩, hclass, h⟩ := Except.bind_eq_ok.mp h
    obtain rfl := Except.ok.inj h
    have hbody : body.Sound := (sound_class _).1 hclass
    exact .plain _ _ hbody
  · exact moves_signRepetition (hcounted (by omega) (by omega) (by omega)) h
  · exact moves_signRepetition (hunbounded (by omega)) h
  · exact moves_signRepetition (hunbounded (by omega)) h
  · exact moves_countedRepetition h
  · obtain ⟨⟨p, c⟩, hp, h⟩ := Except.bind_eq_ok.mp h
    obtain rfl := Except.ok.inj h
    exact .plain _ _ (plain_toExpr (sound_primitive hp))

theorem run_induction {P : State → Prop} (hcursor : ∀ s c, P s → P { s with cursor := c })
    (hstep : ∀ s s', Moves s s' → P s → P s') {fuel : Nat} (hs : P s) (h : run fuel s = .ok s') :
    P s' := by
  induction fuel generalizing s with
  | zero =>
    rw [run] at h
    dsimp only at h
    split at h <;> exact Except.ok.inj h ▸ hcursor s _ hs
  | succ fuel ih =>
    rw [run] at h
    dsimp only at h
    split at h
    · exact Except.ok.inj h ▸ hcursor s _ hs
    · split at h
      · next s₁ hs₁ => exact ih (hstep _ _ (moves_step hs₁) (hcursor s _ hs)) h
      · cases h

end Steps

section Whole

variable {s s' : State}

def Row.Sound (r : Row) : Prop := ∀ e ∈ r.items, e.Sound

def Frame.Sound : Frame → Prop
  | .group outer _ _ _ => outer.Sound
  | .alternation _ branches => ∀ e ∈ branches, e.Sound

structure State.Sound (s : State) : Prop where
  row : s.row.Sound
  frames : ∀ f ∈ s.frames, f.Sound

theorem Row.Sound.push {r : Row} {e : Expr} (h : r.Sound) (he : e.Sound) : (r.push e).Sound :=
  List.forall_mem_cons.mpr ⟨he, h⟩

theorem Row.Sound.toExpr {r : Row} (h : r.Sound) (stop : Nat) : (r.toExpr stop).Sound := by
  unfold Row.toExpr
  split
  · trivial
  · next e heq => exact h e (by simp [heq])
  · exact Expr.allSound_iff.mpr fun e he => h e (List.mem_reverse.mp he)

theorem sound_collect {row : Row} {stop : Nat} {frames rest : List Frame} {body : Expr}
    (hrow : row.Sound) (hframes : ∀ f ∈ frames, f.Sound)
    (h : collect row stop frames = (body, rest)) :
    body.Sound ∧ ∀ f ∈ rest, f.Sound := by
  unfold collect at h
  split at h
  · next start branches rest' =>
    obtain ⟨rfl, rfl⟩ := Prod.mk.inj h
    obtain ⟨hbranches, hrest⟩ := List.forall_mem_cons.mp hframes
    refine ⟨Expr.allSound_iff.mpr fun e he => ?_, hrest⟩
    rcases List.mem_cons.mp (List.mem_reverse.mp he) with rfl | he
    · exact hrow.toExpr stop
    · exact hbranches e he
  · obtain ⟨rfl, rfl⟩ := Prod.mk.inj h
    exact ⟨hrow.toExpr stop, hframes⟩

theorem State.Sound.opened (h : s.Sound) (start : Nat) (kind : GroupKind) (verbose : Bool)
    (c : Cursor) : (s.open start kind verbose c).Sound where
  row := by simp [Row.Sound, State.open]
  frames := List.forall_mem_cons.mpr ⟨h.row, h.frames⟩

theorem State.Sound.moves (h : s.Sound) (hm : Moves s s') : s'.Sound := by
  cases hm with
  | plain verbose c he => exact ⟨h.row.push he.sound, h.frames⟩
  | repeated greedy span c hitems hcount =>
    have hrow := h.row
    rw [Row.Sound, hitems] at hrow
    obtain ⟨he, hrest⟩ := List.forall_mem_cons.mp hrow
    exact ⟨List.forall_mem_cons.mpr ⟨⟨hcount, he⟩, hrest⟩, h.frames⟩
  | named start c hname =>
    refine State.Sound.opened ?_ _ _ _ _
    exact ⟨h.row, h.frames⟩
  | unnamed start c =>
    refine State.Sound.opened ?_ _ _ _ _
    exact ⟨h.row, h.frames⟩
  | flagged start items verbose c => exact h.opened _ _ _ _
  | branch =>
    refine ⟨by simp [Row.Sound, nextBranch], ?_⟩
    have hbranch := h.row.toExpr s.cursor.offset
    unfold nextBranch
    dsimp only
    split
    · next start branches rest hframes =>
      have hall := h.frames
      rw [hframes] at hall
      obtain ⟨hbranches, hrest⟩ := List.forall_mem_cons.mp hall
      exact List.forall_mem_cons.mpr ⟨List.forall_mem_cons.mpr ⟨hbranch, hbranches⟩, hrest⟩
    · exact List.forall_mem_cons.mpr ⟨List.forall_mem_singleton.mpr hbranch, h.frames⟩
  | close stop c hcollect =>
    obtain ⟨hbody, hframes⟩ := sound_collect h.row h.frames hcollect
    obtain ⟨houter, hrest⟩ := List.forall_mem_cons.mp hframes
    exact ⟨houter.push hbody, hrest⟩

theorem finish_eq_ok {e : Expr} (h : finish s = .ok e) :
    collect s.row s.cursor.offset s.frames = (e, []) := by
  unfold finish at h
  cases hc : collect s.row s.cursor.offset s.frames with
  | mk body frames =>
    rw [hc] at h
    dsimp only at h
    split at h
    · obtain rfl := Except.ok.inj h
      rfl
    · cases h
    · cases h

theorem exists_run_of_parse {text : String} {e : Expr} (h : Expr.parse text = .ok e) :
    ∃ s, run (text.length + 1) (State.start text) = .ok s ∧ finish s = .ok e ∧
      Nesting.check e = .ok () := by
  unfold Expr.parse at h
  obtain ⟨s, hs, h⟩ := Except.bind_eq_ok.mp h
  obtain ⟨e', he, h⟩ := Except.bind_eq_ok.mp h
  obtain ⟨_, hcheck, h⟩ := Except.bind_eq_ok.mp h
  obtain rfl := Except.ok.inj h
  exact ⟨s, hs, he, hcheck⟩

theorem sound_parse {text : String} {e : Expr} (h : Expr.parse text = .ok e) : e.Sound := by
  obtain ⟨s, hs, he, -⟩ := exists_run_of_parse h
  have hstart : (State.start text).Sound :=
    ⟨by simp [Row.Sound, State.start], by simp [State.start]⟩
  have hsound : s.Sound :=
    run_induction (fun _ _ h => ⟨h.row, h.frames⟩) (fun _ _ hm h => h.moves hm) hstart hs
  exact (sound_collect hsound.row hsound.frames (finish_eq_ok he)).1

end Whole

end Parser

/-- The language of the normal form of a pattern is that of the pattern as it is written. -/
theorem Form.language_of_parse {pattern : String} {form : Form}
    (h : Form.parse false pattern = .ok form) :
    form.Sound ∧ ∀ text, form.Language text ↔ Pattern.Language pattern text := by
  obtain ⟨e, g, he, hform⟩ := parse_eq_ok.mp h
  obtain ⟨-, hmatches, hsound⟩ := Flags.form_eq_ok _ e (Parser.sound_parse he) hform
  refine ⟨hsound, fun text => ?_⟩
  rw [Form.Language, hmatches]
  exact (language_iff he).symm

end Keypad.Pattern
