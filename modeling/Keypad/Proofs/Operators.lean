import Keypad.Proofs.Tokens
import Keypad.Proofs.Written
/-!
Reading operators and groups back from their written form. An operator takes the expression before
it; a group takes all that was read since it opened.
-/
namespace Keypad.Pattern

def operatorSign (min : Nat) (max : Option Nat) : List Char :=
  match min, max with
  | 0, some 1 => ['?']
  | 0, none => ['*']
  | 1, none => ['+']
  | 1, some 1 => []
  | m, none => '\x7b' :: ((toString m).toList ++ [',', '\x7d'])
  | m, some n =>
    if m = n then '\x7b' :: ((toString m).toList ++ ['\x7d'])
    else '\x7b' :: ((toString m).toList ++ ',' :: ((toString n).toList ++ ['\x7d']))

theorem operator_eq (min : Nat) (max : Option Nat) (greedy : Bool) :
    (Printer.operator min max greedy).toList =
      operatorSign min max ++ if greedy = true ∨ max = some min then [] else ['?'] := by
  have hbraced : ∀ text : String,
      (Printer.braced text).toList = '\x7b' :: (text.toList ++ ['\x7d']) := by
    intro text
    simp [Printer.braced, String.toList_append]
  have hcomma : (toString ",").toList = [','] := rfl
  unfold Printer.operator
  generalize hmark : (if greedy then "" else "?") = mark
  have hmark' : mark.toList = if greedy = true then [] else ['?'] := by
    subst hmark
    cases greedy <;> rfl
  dsimp only
  split
  · rw [String.toList_append, hmark']
    cases greedy <;> rfl
  · rw [String.toList_append, hmark']
    cases greedy <;> rfl
  · rw [String.toList_append, hmark']
    cases greedy <;> rfl
  · cases greedy <;> rfl
  · next hzero hone =>
    rw [operatorSign, String.toList_append, hmark', hbraced, String.toList_append, hcomma]
    · simp
    · exact hzero
    · exact hone
  · next n hzero hone =>
    rw [operatorSign]
    · by_cases heq : min = n
      · rw [if_pos heq, if_pos heq, if_pos (Or.inr (congrArg some heq.symm)), hbraced]
        simp
      · rw [if_neg heq, if_neg heq, String.toList_append, hmark', hbraced, String.toList_append,
          String.toList_append, hcomma]
        have hne : ¬ n = min := fun h => heq h.symm
        simp [hne]
    · exact hzero
    · exact hone

def CountText (min : Nat) (max : Option Nat) (body : List Char) : Prop :=
  body = (toString min).toList ++ [',', '\x7d'] ∧ max = none ∨
    body = (toString min).toList ++ ['\x7d'] ∧ max = some min ∨
    ∃ n, body = (toString min).toList ++ ',' :: ((toString n).toList ++ ['\x7d']) ∧ max = some n

theorem operatorSign_cases {min : Nat} {max : Option Nat} (honce : ¬ (min = 1 ∧ max = some 1)) :
    (operatorSign min max = ['?'] ∧ min = 0 ∧ max = some 1) ∨
      (operatorSign min max = ['*'] ∧ min = 0 ∧ max = none) ∨
      (operatorSign min max = ['+'] ∧ min = 1 ∧ max = none) ∨
      ∃ body, operatorSign min max = '\x7b' :: body ∧ CountText min max body := by
  unfold operatorSign
  split
  · exact Or.inl ⟨rfl, rfl, rfl⟩
  · exact Or.inr (Or.inl ⟨rfl, rfl, rfl⟩)
  · exact Or.inr (Or.inr (Or.inl ⟨rfl, rfl, rfl⟩))
  · exact absurd ⟨rfl, rfl⟩ honce
  · exact Or.inr (Or.inr (Or.inr ⟨_, rfl, Or.inl ⟨rfl, rfl⟩⟩))
  · next n _ _ =>
    refine Or.inr (Or.inr (Or.inr ?_))
    by_cases heq : min = n
    · rw [if_pos heq]
      exact ⟨_, rfl, Or.inr (Or.inl ⟨rfl, congrArg some heq.symm⟩)⟩
    · rw [if_neg heq]
      exact ⟨_, rfl, Or.inr (Or.inr ⟨n, rfl, rfl⟩)⟩

namespace Parser

variable {s z : State} {rest : List Char} {e : Expr} {items : List Expr}

theorem operand_of_items (hitems : s.row.items = e :: items) (he : e.Repeatable) (span : Span) :
    operand s span = .ok (e, { s.row with items }) := by
  unfold operand
  rw [hitems]
  cases e <;> first | rfl | exact he.elim

theorem signRepetition_eq (hitems : s.row.items = e :: items) (he : e.Repeatable) {sign : Char}
    {greedy : Bool} (htext : s.cursor.rest = sign :: if greedy then rest else '?' :: rest)
    (hrest : greedy = true → rest.head? ≠ some '?') (min : Nat) (max : Option Nat) :
    ∃ c : Cursor, c.rest = rest ∧
      signRepetition s min max = .ok (s.repeated { s.row with items } e min max greedy c) := by
  unfold signRepetition
  rw [operand_of_items hitems he]
  have hbump : s.cursor.bump = ⟨if greedy then rest else '?' :: rest, s.cursor.offset + 1⟩ := by
    rw [Cursor.bump, htext]
  simp only [bind, Except.bind, hbump]
  cases greedy with
  | true =>
    have hhead : ¬ (Cursor.head? ⟨rest, s.cursor.offset + 1⟩ = some '?') := hrest rfl
    exact ⟨⟨rest, s.cursor.offset + 1⟩, rfl, by simp [hhead]; rfl⟩
  | false => exact ⟨⟨rest, s.cursor.offset + 1 + 1⟩, rfl, rfl⟩

theorem closeCount_eq {row : Row} {start min : Nat} {max : Option Nat} {c : Cursor} {greedy : Bool}
    (hmax : ∀ n ∈ max, min ≤ n) (hverbose : s.verbose = false)
    (htext : c.rest = '\x7d' :: if greedy then rest else '?' :: rest)
    (hrest : greedy = true → rest.head? ≠ some '?') :
    ∃ c' : Cursor, c'.rest = rest ∧
      closeCount s row e start min max c = .ok (s.repeated row e min max greedy c') := by
  have hhead : c.head? = some '\x7d' := by rw [Cursor.head?, htext]; rfl
  have hnext : c.next s.verbose = ⟨if greedy then rest else '?' :: rest, c.offset + 1⟩ := by
    rw [hverbose, Cursor.next, Cursor.bump, htext]
    rfl
  have hall : max.all (min ≤ ·) = true := by
    cases max with
    | none => rfl
    | some n => simpa using hmax n rfl
  unfold closeCount
  rw [hhead, hnext, if_neg (by simp)]
  dsimp only
  rw [if_pos hall]
  cases greedy with
  | true =>
    have hno : ¬ (Cursor.head? ⟨rest, c.offset + 1⟩ = some '?') := hrest rfl
    exact ⟨⟨rest, c.offset + 1⟩, rfl, by simp [hno]⟩
  | false => exact ⟨⟨rest, c.offset + 1 + 1⟩, rfl, rfl⟩

theorem isDigit_signs : ('\x7d'.isDigit = false ∧ Text.isBlank '\x7d' = false) ∧
    ','.isDigit = false ∧ Text.isBlank ',' = false := by decide

theorem head?_toString (n : Nat) (tail : List Char) (k : Nat) :
    Cursor.head? ⟨(toString n).toList ++ '\x7d' :: tail, k⟩ ≠ some '\x7d' := by
  obtain ⟨d, ds, hrepr, hdigits, -⟩ := exists_digits_toString n
  rw [hrepr]
  intro heq
  obtain rfl : d = '\x7d' := Option.some.inj heq
  exact absurd (hdigits '\x7d' List.mem_cons_self) (by decide)

theorem countedRepetition_eq (hverbose : s.verbose = false) (hitems : s.row.items = e :: items)
    (he : e.Repeatable) {min : Nat} {max : Option Nat} {greedy : Bool} {body : List Char}
    (hcounted : Form.Counted min max) (hbody : CountText min max body)
    (htext : s.cursor.rest = '\x7b' :: (body ++ if greedy then rest else '?' :: rest))
    (hrest : greedy = true → rest.head? ≠ some '?') :
    ∃ c : Cursor, c.rest = rest ∧
      countedRepetition s = .ok (s.repeated { s.row with items } e min max greedy c) := by
  obtain ⟨⟨hbraceDigit, hbraceBlank⟩, hcommaDigit, hcommaBlank⟩ := isDigit_signs
  obtain ⟨hmin, hmax⟩ := hcounted
  have hclose : ∀ m, ∃ c : Cursor, c.rest = rest ∧
      closeCount s { s.row with items } e s.cursor.offset min max
          ⟨'\x7d' :: if greedy then rest else '?' :: rest, m⟩ =
        .ok (s.repeated { s.row with items } e min max greedy c) := fun m =>
    closeCount_eq (fun n hn => (hmax n hn).1) hverbose rfl hrest
  generalize htail : (if greedy then rest else '?' :: rest) = tail at htext hclose
  have hnext : s.cursor.next s.verbose = ⟨body ++ tail, s.cursor.offset + 1⟩ := by
    rw [hverbose, Cursor.next, Cursor.bump, htext]
    rfl
  have hend : (⟨body ++ tail, s.cursor.offset + 1⟩ : Cursor).atEnd = false := by
    rcases hbody with ⟨rfl, -⟩ | ⟨rfl, -⟩ | ⟨n, rfl, -⟩ <;> simp [Cursor.atEnd]
  unfold countedRepetition
  rw [operand_of_items hitems he]
  simp only [bind, Except.bind]
  rw [hnext, hend, if_neg (by simp), hverbose]
  rcases hbody with ⟨rfl, rfl⟩ | ⟨rfl, rfl⟩ | ⟨n, rfl, rfl⟩
  · obtain ⟨m, hcount⟩ :=
      count_toString hmin hcommaDigit hcommaBlank ('\x7d' :: tail) (s.cursor.offset + 1)
    obtain ⟨c, hc, hclosed⟩ := hclose (m + 1)
    have hcomma : Cursor.next false ⟨',' :: '\x7d' :: tail, m⟩ = ⟨'\x7d' :: tail, m + 1⟩ := rfl
    refine ⟨c, hc, ?_⟩
    rw [List.append_assoc]
    simp only [List.cons_append, List.nil_append]
    rw [hcount]
    dsimp only
    rw [hcomma, if_neg (by simp [Cursor.atEnd]), if_pos (by rfl), if_neg (by simp [Cursor.atEnd]),
      if_pos (by rfl), hclosed]
  · obtain ⟨m, hcount⟩ := count_toString hmin hbraceDigit hbraceBlank tail (s.cursor.offset + 1)
    obtain ⟨c, hc, hclosed⟩ := hclose m
    refine ⟨c, hc, ?_⟩
    rw [List.append_assoc]
    simp only [List.cons_append, List.nil_append]
    rw [hcount]
    dsimp only
    rw [if_neg (by simp [Cursor.atEnd]), if_neg (by simp [Cursor.head?]), hclosed]
  · obtain ⟨m, hcount⟩ :=
      count_toString hmin hcommaDigit hcommaBlank ((toString n).toList ++ '\x7d' :: tail)
      (s.cursor.offset + 1)
    have hcomma : Cursor.next false ⟨',' :: ((toString n).toList ++ '\x7d' :: tail), m⟩ =
      ⟨(toString n).toList ++ '\x7d' :: tail, m + 1⟩ := rfl
    have hdigit : Cursor.head? ⟨(toString n).toList ++ '\x7d' :: tail, m + 1⟩ ≠ some '\x7d' :=
      head?_toString n _ _
    obtain ⟨m', hcount'⟩ := count_toString (hmax n rfl).2 hbraceDigit hbraceBlank tail (m + 1)
    obtain ⟨c, hc, hclosed⟩ := hclose m'
    refine ⟨c, hc, ?_⟩
    rw [List.append_assoc]
    simp only [List.cons_append, List.append_assoc, List.nil_append]
    rw [hcount]
    dsimp only
    rw [hcomma, if_neg (by simp [Cursor.atEnd]), if_pos (by rfl), if_neg (by simp [Cursor.atEnd]),
      if_neg hdigit, hcount']
    dsimp only
    rw [hclosed]

theorem State.Follows.repeats (h : s.Follows z) (hitems : s.row.items = e :: items)
    (he : e.Repeatable) {min : Nat} {max : Option Nat} {greedy : Bool}
    (hcounted : Form.Counted min max) (honce : ¬ (min = 1 ∧ max = some 1))
    (htext : s.cursor.rest = operatorSign min max ++ if greedy then rest else '?' :: rest)
    (hrest : greedy = true → rest.head? ≠ some '?') :
    ∃ (s' : State) (span : Span), s'.Follows z ∧ s'.cursor.rest = rest ∧
      s'.row.items = .iterate span min max greedy e :: items ∧ s'.frames = s.frames := by
  have hcases := operatorSign_cases honce
  have hne : operatorSign min max ≠ [] := by
    rcases hcases with ⟨heq, -⟩ | ⟨heq, -⟩ | ⟨heq, -⟩ | ⟨body, heq, -⟩ <;> simp [heq]
  have hlength : rest.length < s.cursor.rest.length := by
    have hpos := List.length_pos_of_ne_nil hne
    have hle : rest.length ≤ (if greedy then rest else '?' :: rest).length := by
      cases greedy <;> simp
    rw [htext, List.length_append]
    omega
  have hrepeated : ∃ c : Cursor, c.rest = rest ∧
      Parser.step s = .ok (s.repeated { s.row with items } e min max greedy c) := by
    unfold Parser.step
    rcases hcases with ⟨heq, rfl, rfl⟩ | ⟨heq, rfl, rfl⟩ | ⟨heq, rfl, rfl⟩ | ⟨body, heq, hbody⟩
    all_goals
      rw [heq] at htext
    · rw [show s.cursor.head? = some '?' by rw [Cursor.head?, htext]; rfl]
      exact signRepetition_eq hitems he htext hrest 0 (some 1)
    · rw [show s.cursor.head? = some '*' by rw [Cursor.head?, htext]; rfl]
      exact signRepetition_eq hitems he htext hrest 0 none
    · rw [show s.cursor.head? = some '+' by rw [Cursor.head?, htext]; rfl]
      exact signRepetition_eq hitems he htext hrest 1 none
    · rw [show s.cursor.head? = some '\x7b' by rw [Cursor.head?, htext]; rfl]
      exact countedRepetition_eq h.verbose hitems he hcounted hbody htext hrest
  obtain ⟨c, hc, hstep⟩ := hrepeated
  exact ⟨_, _, h.step hstep h.verbose (hc ▸ hlength), hc, rfl, rfl⟩

section Groups

inductive Marks : List Char → List FlagItem → Prop
  | none : Marks [] []
  | lines : Marks ['m'] [.flag .multiLine]
  | crlfLines : Marks ['m', 'R'] [.flag .multiLine, .flag .crlf]
  | bytes : Marks ['-', 'u'] Flags.byteItems

def State.Enters (s z : State) (rest : List Char) (kind : GroupKind) : Prop :=
  ∃ (s' : State) (start : Nat), s'.Follows z ∧ s'.cursor.rest = rest ∧ s'.row.items = [] ∧
    s'.frames = .group s.row start kind false :: s.frames

theorem State.Follows.enters (h : s.Follows z) {text : List Char}
    (htext : s.cursor.rest = '(' :: text) {kind : GroupKind} (hlength : rest.length ≤ text.length)
    (hopen : ∃ (t : State) (start : Nat) (c : Cursor),
      openGroup s = .ok (t.open start kind false c) ∧
      c.rest = rest ∧ t.row = s.row ∧ t.verbose = s.verbose ∧ t.frames = s.frames) :
    s.Enters z rest kind := by
  obtain ⟨t, start, c, hopened, hc, hrow, hverbose, hframes⟩ := hopen
  have hstep : Parser.step s = .ok (t.open start kind false c) := by
    unfold Parser.step
    rwa [show s.cursor.head? = some '(' by rw [Cursor.head?, htext]; rfl]
  have hlt : c.rest.length < s.cursor.rest.length := by
    rw [hc, htext, List.length_cons]
    omega
  refine ⟨_, start, h.step hstep rfl hlt, hc, rfl, ?_⟩
  rw [State.open, hrow, hverbose, h.verbose, hframes]

theorem State.Follows.enters_scoped (h : s.Follows z) {marks : List Char} {flags : List FlagItem}
    (hmarks : Marks marks flags) (htext : s.cursor.rest = '(' :: '?' :: (marks ++ ':' :: rest)) :
    s.Enters z rest (.scoped flags) := by
  refine h.enters htext (by simp; omega) ?_
  have hverbose := h.verbose
  clear h
  obtain ⟨⟨text, n⟩, verbose, row, frames, captures, names⟩ := s
  dsimp only at htext hverbose
  subst htext hverbose
  cases hmarks with
  | none => exact ⟨_, n, ⟨rest, n + 3⟩, rfl, rfl, rfl, rfl, rfl⟩
  | lines => exact ⟨_, n, ⟨rest, n + 4⟩, rfl, rfl, rfl, rfl, rfl⟩
  | crlfLines => exact ⟨_, n, ⟨rest, n + 5⟩, rfl, rfl, rfl, rfl, rfl⟩
  | bytes => exact ⟨_, n, ⟨rest, n + 5⟩, rfl, rfl, rfl, rfl, rfl⟩

theorem State.Follows.enters_unnamed (h : s.Follows z) (htext : s.cursor.rest = '(' :: rest)
    (hrest : rest.head? ≠ some '?') (hne : rest ≠ []) :
    ∃ index, s.Enters z rest (.capture index none) := by
  refine ⟨s.captures + 1, h.enters htext (Nat.le_refl _) ?_⟩
  have hverbose := h.verbose
  clear h
  obtain ⟨⟨text, n⟩, verbose, row, frames, captures, names⟩ := s
  dsimp only at htext hverbose
  subst htext hverbose
  cases rest with
  | nil => exact absurd rfl hne
  | cons ch rest =>
    have hch : ch ≠ '?' := fun heq => hrest (congrArg some heq)
    have htake : ∀ text : String,
        text.toList.head? = some '?' → Cursor.take? text ⟨ch :: rest, n + 1⟩ = none := by
      intro text htext
      cases htoList : text.toList with
      | nil =>
        rw [htoList] at htext
        cases htext
      | cons x xs =>
        rw [htoList] at htext
        obtain rfl : x = '?' := Option.some.inj htext
        exact take?_of_head hch text htoList rest (n + 1)
    have hnext : Cursor.next false ⟨'(' :: ch :: rest, n⟩ = ⟨ch :: rest, n + 1⟩ := rfl
    have hlook : isLookaround ⟨ch :: rest, n + 1⟩ = false := by
      simp only [isLookaround, List.any_cons, List.any_nil, Bool.or_false]
      rw [htake "?=" rfl, htake "?!" rfl, htake "?<=" rfl, htake "?<!" rfl]
      rfl
    refine ⟨⟨⟨'(' :: ch :: rest, n⟩, false, row, frames, captures + 1, names⟩, n,
      ⟨ch :: rest, n + 1⟩, ?_, rfl, rfl, rfl, rfl⟩
    unfold openGroup
    dsimp only
    rw [hnext, hlook, if_neg (by simp), htake "?P<" rfl, htake "?<" rfl, htake "?" rfl]
    rfl

theorem nameChars_append {first : Bool} {name : List Char}
    (hfirst : ∀ c ∈ name.head?, isNameChar first c = true ∧ c ≠ '>')
    (hrest : ∀ c ∈ name.tail, isNameChar false c = true ∧ c ≠ '>') (n : Nat) :
    nameChars first (name ++ '>' :: rest) n = .ok (name, ⟨'>' :: rest, n + name.length⟩) := by
  induction name generalizing first n with
  | nil => rfl
  | cons x name ih =>
    obtain ⟨hchar, hx⟩ := hfirst x rfl
    have htail : nameChars false (name ++ '>' :: rest) (n + 1) =
        .ok (name, ⟨'>' :: rest, n + 1 + name.length⟩) :=
      ih (fun c hc => hrest c (List.mem_of_mem_head? hc))
        (fun c hc => hrest c (List.mem_of_mem_tail hc)) _
    rw [List.cons_append, nameChars, if_neg hx, hchar, if_neg (by simp), htail]
    simp only [bind, Except.bind, pure, Except.pure, List.length_cons]
    rw [show n + 1 + name.length = n + (name.length + 1) by omega]

theorem groupName_append {names : List String} {name : String} (h : Named names name) (n : Nat) :
    ∃ m, groupName names ⟨name.toList ++ '>' :: rest, n⟩ = .ok (name, ⟨rest, m⟩) := by
  have hchars : nameChars true (name.toList ++ '>' :: rest) n = _ :=
    nameChars_append h.first h.rest n
  refine ⟨n + name.toList.length + 1, ?_⟩
  unfold groupName
  simp only [bind, Except.bind]
  rw [hchars]
  dsimp only
  rw [String.ofList_toList, if_neg (by simpa using h.ne_nil), if_neg (by simpa using h.fresh)]
  rfl

theorem State.Follows.enters_named (h : s.Follows z) {name : String} (hname : Named s.names name)
    (htext : s.cursor.rest = '(' :: '?' :: 'P' :: '<' :: (name.toList ++ '>' :: rest)) :
    ∃ index, s.Enters z rest (.capture index (some name)) := by
  refine ⟨s.captures + 1, h.enters htext (by simp; omega) ?_⟩
  have hverbose := h.verbose
  clear h
  obtain ⟨⟨text, n⟩, verbose, row, frames, captures, names⟩ := s
  dsimp only at htext hverbose hname
  subst htext hverbose
  obtain ⟨m, hgroup⟩ : ∃ m,
      groupName names ⟨name.toList ++ '>' :: rest, n + 1 + 3⟩ = .ok (name, ⟨rest, m⟩) :=
    groupName_append hname _
  refine ⟨⟨⟨'(' :: '?' :: 'P' :: '<' :: (name.toList ++ '>' :: rest), n⟩, false, row, frames,
    captures + 1, name :: names⟩, n, ⟨rest, m⟩, ?_, rfl, rfl, rfl, rfl⟩
  change (groupName names ⟨name.toList ++ '>' :: rest, n + 1 + 3⟩ >>= _) = _
  rw [hgroup]
  rfl

def State.Fills (s z : State) (rest : List Char) (P : Expr → Prop) : Prop :=
  ∃ (s' : State) (body : Expr), P body ∧ s'.Follows z ∧ s'.cursor.rest = ')' :: rest ∧
    collect s'.row s'.cursor.offset s'.frames = (body, s.frames)

theorem State.Enters.adds {inner : List Char} {kind : GroupKind} {P : Expr → Prop}
    (h : s.Enters z inner kind)
    (hfill : ∀ s' : State, s'.Follows z → s'.cursor.rest = inner → s'.row.items = [] →
      (∃ start, s'.frames = .group s.row start kind false :: s.frames) → s'.Fills z rest P) :
    ∃ span body, P body ∧ s.Adds z rest [.group span kind body] := by
  obtain ⟨s', start, hfollows, hinner, hitems, hframes⟩ := h
  obtain ⟨t, body, hbody, ht, htext, hcollect⟩ := hfill s' hfollows hinner hitems ⟨_, hframes⟩
  have hbump : t.cursor.bump = ⟨rest, t.cursor.offset + 1⟩ := by rw [Cursor.bump, htext]
  have hstep : Parser.step t = .ok { t with
      cursor := t.cursor.bump
      verbose := false
      row := s.row.push (.group ⟨start, t.cursor.bump.offset⟩ kind body)
      frames := s.frames } := by
    unfold Parser.step closeGroup
    rw [show t.cursor.head? = some ')' by rw [Cursor.head?, htext]; rfl, hcollect, hframes]
    rfl
  refine ⟨_, body, hbody, _, ht.step hstep rfl ?_, ?_, rfl, rfl⟩
  · rw [hbump, htext]
    simp
  · exact congrArg Cursor.rest hbump

theorem State.Adds.fills {es : List Expr} (h : s.Adds z (')' :: rest) es)
    (hitems : s.row.items = [])
    (hframes : ∃ row start kind frames, s.frames = .group row start kind false :: frames) :
    s.Fills z rest fun body =>
      ∃ row : Row, ∃ stop, row.items = es.reverse ∧ body = row.toExpr stop := by
  obtain ⟨s', hfollows, hrest, hrow, hsame⟩ := h
  obtain ⟨row, start, kind, frames, hframes⟩ := hframes
  refine ⟨s', _, ⟨s'.row, s'.cursor.offset, by simpa [hitems] using hrow, rfl⟩, hfollows, hrest, ?_⟩
  rw [hsame, hframes]
  rfl

end Groups

end Parser

end Keypad.Pattern
