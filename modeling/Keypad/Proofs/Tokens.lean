import Keypad.Proofs.Gathering
/-!
Reading single tokens in the middle of a pattern. Where the token that stands next is well written,
the run that began at some state goes on behind it.
-/
namespace Keypad.Pattern.Parser

open Keypad.Charset

/-- The run from `z` comes to this state, outside verbose mode. -/
structure State.Follows (s z : State) : Prop where
  verbose : s.verbose = false
  numbered : s.Numbered
  run : ∃ n, s.cursor.rest.length + n ≤ z.cursor.rest.length ∧
    ∀ fuel, Parser.run (fuel + n) z = Parser.run fuel s

variable {s s' z : State} {rest : List Char}

theorem State.Follows.refl (hverbose : s.verbose = false) (hnumbered : s.Numbered) : s.Follows s :=
  ⟨hverbose, hnumbered, 0, Nat.le_refl _, fun _ => rfl⟩

theorem State.Follows.step (h : s.Follows z) (hs : Parser.step s = .ok s')
    (hverbose : s'.verbose = false) (hlt : s'.cursor.rest.length < s.cursor.rest.length) :
    s'.Follows z := by
  obtain ⟨n, hn, hrun⟩ := h.run
  refine ⟨hverbose, h.numbered.moves (moves_step hs), n + 1, by omega, fun fuel => ?_⟩
  have hskip : ({ s with cursor := s.cursor.skip s.verbose } : State) = s := by
    have hv := h.verbose
    cases s
    dsimp only at hv
    subst hv
    rfl
  have hend : s.cursor.atEnd = false := by
    have hne : s.cursor.rest ≠ [] := List.ne_nil_of_length_pos (by omega)
    simpa [Cursor.atEnd] using hne
  rw [show fuel + (n + 1) = (fuel + 1) + n by omega, hrun, Parser.run, hskip, hend,
    if_neg (by simp), hs]

def State.Adds (s z : State) (rest : List Char) (es : List Expr) : Prop :=
  ∃ s' : State, s'.Follows z ∧ s'.cursor.rest = rest ∧ s'.row.items = es.reverse ++ s.row.items ∧
    s'.frames = s.frames

/-- Wherever a run comes to the text, in front of what is allowed behind it, it adds one
expression. -/
def Reads (text : List Char) (allowed : List Char → Prop) (P : Expr → Prop) : Prop :=
  ∀ (s z : State) (rest : List Char), s.Follows z → s.cursor.rest = text ++ rest → allowed rest →
    ∃ e, P e ∧ s.Adds z rest [e]

def Anything (_ : List Char) : Prop := True

def NoMark (rest : List Char) : Prop := rest.head? ≠ some '?'

theorem State.Adds.behind {es fs : List Expr} {s' : State}
    (hrow : s'.row.items = es.reverse ++ s.row.items) (hframes : s'.frames = s.frames)
    (h : s'.Adds z rest fs) :
    s.Adds z rest (es ++ fs) := by
  obtain ⟨t, hfollows, hrest, hitems, hframes'⟩ := h
  exact ⟨t, hfollows, hrest, by simp [hitems, hrow], hframes'.trans hframes⟩

theorem reads_of_step {text : List Char} {allowed : List Char → Prop} {P : Expr → Prop}
    (hne : text ≠ []) (h : ∀ (s : State) (rest : List Char),
      s.verbose = false → s.cursor.rest = text ++ rest → allowed rest →
      ∃ e c, step s = .ok { s with cursor := c, row := s.row.push e } ∧ c.rest = rest ∧ P e) :
    Reads text allowed P := by
  intro s z rest hfollows htext hallowed
  obtain ⟨e, c, hstep, hc, he⟩ := h s rest hfollows.verbose htext hallowed
  have hlt : c.rest.length < s.cursor.rest.length := by
    have := List.length_pos_of_ne_nil hne
    rw [hc, htext, List.length_append]
    omega
  exact ⟨e, he, _, hfollows.step hstep hfollows.verbose hlt, hc, rfl, rfl⟩

theorem take?_of_head {ch x : Char} (h : ch ≠ x) (text : String) {xs : List Char}
    (htext : text.toList = x :: xs) (rest : List Char) (k : Nat) :
    Cursor.take? text ⟨ch :: rest, k⟩ = none := by
  simp [Cursor.take?, htext, h.symm]

section Elements

def signs : List Char := ['(', ')', '|', '[', '?', '*', '+', '\x7b']

theorem step_primitive {ch : Char} {p : Primitive} {c : Cursor} (hhead : s.cursor.head? = some ch)
    (hch : ch ∉ signs) (hp : primitive s.verbose s.cursor = .ok (p, c)) :
    step s = .ok { s with cursor := c, row := s.row.push p.toExpr } := by
  unfold step
  rw [hhead]
  simp only [signs, List.mem_cons, List.not_mem_nil, or_false, not_or] at hch
  split
  any_goals
    simp_all

theorem reads_primitive {text : List Char} {P : Expr → Prop} {ch : Char}
    (hhead : text.head? = some ch) (hch : ch ∉ signs)
    (h : ∀ rest n, ∃ p m, primitive false ⟨text ++ rest, n⟩ = .ok (p, ⟨rest, m⟩) ∧ P p.toExpr) :
    Reads text Anything P := by
  have hne : text ≠ [] := by
    rintro rfl
    cases hhead
  refine reads_of_step hne fun s rest hverbose htext _ => ?_
  obtain ⟨p, m, hp, hP⟩ := h rest s.cursor.offset
  have hcursor : s.cursor = ⟨text ++ rest, s.cursor.offset⟩ := by rw [← htext]
  have hhead' : s.cursor.head? = some ch := by
    rw [hcursor, Cursor.head?, List.head?_append_of_ne_nil _ hne, hhead]
  refine ⟨p.toExpr, ⟨rest, m⟩, step_primitive hhead' hch ?_, rfl, hP⟩
  rw [hverbose, hcursor]
  exact hp

def metas : List Char :=
  ['\\', '.', '+', '*', '?', '(', ')', '|', '[', ']', '\x7b', '\x7d', '^', '$', '#', '&', '-', '~']

theorem isMeta_iff {c : Char} : Printer.isMeta c = true ↔ c ∈ metas := by
  simp [Printer.isMeta, metas]

theorem escape_meta {c : Char} (hc : c ∈ metas) (verbose : Bool) (rest : List Char) (n : Nat) :
    escape verbose ⟨'\\' :: c :: rest, n⟩ =
      .ok (.literal ⟨⟨n, n + 1 + 1⟩, c, false⟩, ⟨rest, n + 1 + 1⟩) := by
  revert c
  simp only [metas, List.mem_cons, List.not_mem_nil, or_false, forall_eq_or_imp, forall_eq]
  refine ⟨?_, ?_, ?_, ?_, ?_, ?_, ?_, ?_, ?_, ?_, ?_, ?_, ?_, ?_, ?_, ?_, ?_, ?_⟩ <;> rfl

theorem primitive_char (c : Char) (rest : List Char) (n : Nat) :
    ∃ span m, primitive false ⟨Printer.char c ++ rest, n⟩ =
      .ok (.literal ⟨span, c, false⟩, ⟨rest, m⟩) := by
  by_cases hmeta : Printer.isMeta c = true
  · rw [Printer.char, if_pos hmeta]
    exact ⟨_, _, escape_meta (isMeta_iff.mp hmeta) false rest n⟩
  · rw [Printer.char, if_neg hmeta]
    have hnot : c ∉ metas := fun h => hmeta (isMeta_iff.mpr h)
    refine ⟨⟨n, n + 1⟩, n + 1, ?_⟩
    simp only [metas, List.mem_cons, List.not_mem_nil, or_false, not_or] at hnot
    show primitive false ⟨c :: rest, n⟩ = _
    unfold primitive
    split
    any_goals
      simp_all [Cursor.head?]
    exact ⟨rfl, rfl⟩

theorem hexValue?_hexDigit {n : Nat} (h : n < 16) : hexValue? (Printer.hexDigit n) = some n := by
  interval_cases n <;> rfl

theorem primitive_hexByte {b : Nat} (h : b < 0x100) (rest : List Char) (n : Nat) :
    ∃ span m, primitive false ⟨Printer.hexByte b ++ rest, n⟩ =
      .ok (.literal ⟨span, Char.ofNat b, true⟩, ⟨rest, m⟩) := by
  have hhi := hexValue?_hexDigit (n := b / 16) (by omega)
  have hlo := hexValue?_hexDigit (n := b % 16) (by omega)
  have hbrace : ∀ k < 16, Printer.hexDigit k ≠ '\x7b' := by decide
  have hscalar : scalar? [b / 16, b % 16] = some (Char.ofNat b) := by
    have hn : b / 16 * 16 + b % 16 = b := by omega
    have hvalid : b.isValidChar := Or.inl (by omega)
    simp [scalar?, hn, hvalid]
  have hdigits : hexDigits false 2
      ⟨Printer.hexDigit (b / 16) :: Printer.hexDigit (b % 16) :: rest, n + 2⟩ =
      .ok ([b / 16, b % 16], ⟨rest, n + 4⟩) := by
    simp [hexDigits, Cursor.head?, hhi, hlo, Cursor.next, Cursor.bump, Cursor.skip, bind,
      Except.bind, pure, Except.pure]
  refine ⟨⟨n, n + 4⟩, n + 4, ?_⟩
  show hex false n
    ⟨'x' :: Printer.hexDigit (b / 16) :: Printer.hexDigit (b % 16) :: rest, n + 1⟩ = _
  have hnext : Cursor.next false
      ⟨'x' :: Printer.hexDigit (b / 16) :: Printer.hexDigit (b % 16) :: rest, n + 1⟩ =
      ⟨Printer.hexDigit (b / 16) :: Printer.hexDigit (b % 16) :: rest, n + 2⟩ := rfl
  unfold hex
  rw [hnext]
  dsimp only [Cursor.head?, List.head?_cons]
  split
  · cases ‹some _ = none›
  · next heq => exact absurd (Option.some.inj heq) (hbrace _ (by omega))
  · simp [hdigits, hscalar, bind, Except.bind, pure, Except.pure]

theorem primitive_wordEdge (kind : WordEdge) {rest : List Char}
    (h : rest.head? ≠ some '\x7b') (n : Nat) :
    ∃ span m, primitive false ⟨(Printer.wordEdge kind).toList ++ rest, n⟩ =
      .ok (.assertion span (.wordEdge kind), ⟨rest, m⟩) := by
  cases kind with
  | boundary =>
    have hhead : Cursor.head? ⟨rest, n + 1 + 1⟩ ≠ some '\x7b' := h
    have hnone : namedEdge? false n ⟨rest, n + 1 + 1⟩ = .ok none := by
      rw [namedEdge?, if_pos hhead]
      rfl
    refine ⟨⟨n, n + 1 + 1⟩, n + 1 + 1, ?_⟩
    show (namedEdge? false n ⟨rest, n + 1 + 1⟩ >>= _) = _
    rw [hnone]
    rfl
  | notBoundary | start | finish | startHalf | finishHalf => exact ⟨_, _, rfl⟩

end Elements

section Counts

theorem isDigit_iff {c : Char} : c.isDigit = true ↔ '0' ≤ c ∧ c ≤ '9' :=
  Bool.and_eq_true_iff.trans (and_congr decide_eq_true_iff decide_eq_true_iff)

theorem isBlank_digit {c : Char} (h : c.isDigit = true) : Text.isBlank c = false := by
  obtain ⟨hlo, hhi⟩ := isDigit_iff.mp h
  have hlo' : 0x30 ≤ c.toNat := hlo
  have hhi' : c.toNat ≤ 0x39 := hhi
  simp [Text.isBlank]
  omega

theorem digits_append {ds : List Char} {x : Char} (hds : ∀ d ∈ ds, d.isDigit = true)
    (hx : x.isDigit = false) (rest : List Char) {fuel : Nat} (hfuel : ds.length < fuel) (n : Nat) :
    digits false fuel ⟨ds ++ x :: rest, n⟩ =
      (ds.map fun d => d.toNat - 0x30, ⟨x :: rest, n + ds.length⟩) := by
  induction ds generalizing fuel n with
  | nil =>
    have hnot : ¬ ('0' ≤ x ∧ x ≤ '9') := by
      rw [← isDigit_iff, hx]
      exact Bool.false_ne_true
    cases fuel with
    | zero => omega
    | succ fuel => simp [digits, Cursor.head?, hnot]
  | cons d ds ih =>
    obtain ⟨hd, hds⟩ := List.forall_mem_cons.mp hds
    cases fuel with
    | zero => omega
    | succ fuel =>
      have hnext : Cursor.next false ⟨d :: ds ++ x :: rest, n⟩ = ⟨ds ++ x :: rest, n + 1⟩ := rfl
      rw [digits, hnext, ih hds (by simpa using hfuel)]
      simp [Cursor.head?, isDigit_iff.mp hd]
      omega

theorem skipBlanks_of_head {x : Char} (hx : Text.isBlank x = false) (rest : List Char) (n : Nat) :
    skipBlanks ⟨x :: rest, n⟩ = ⟨x :: rest, n⟩ := by
  simp [skipBlanks, hx]

theorem foldl_digits (cs : List Char) (n : Nat) :
    (cs.map fun d => d.toNat - 0x30).foldl (fun n d => n * 10 + d) n =
      Nat.ofDigitChars 10 cs n := by
  induction cs generalizing n with
  | nil => simp
  | cons c cs ih =>
    rw [List.map_cons, List.foldl_cons, ih, Nat.ofDigitChars_cons, Nat.mul_comm]
    rfl

theorem exists_digits_toString (n : Nat) : ∃ d ds, (toString n).toList = d :: ds ∧
    (∀ x ∈ d :: ds, x.isDigit = true) ∧ Nat.ofDigitChars 10 (d :: ds) 0 = n := by
  have hrepr : (toString n).toList = Nat.toDigits 10 n := Nat.toList_repr
  have hdigits : ∀ x ∈ Nat.toDigits 10 n, x.isDigit = true := fun x hx =>
    Nat.isDigit_of_mem_toDigits (by decide) (by decide) hx
  have hvalue : Nat.ofDigitChars 10 (Nat.toDigits 10 n) 0 = n := Nat.ofDigitChars_ten_toDigits
  rw [hrepr]
  cases hds : Nat.toDigits 10 n with
  | nil => exact absurd hds Nat.toDigits_ne_nil
  | cons d ds => exact ⟨d, ds, rfl, hds ▸ hdigits, hds ▸ hvalue⟩

theorem count_toString {k : Nat} (hk : k ≤ maxCount) {x : Char} (hdigit : x.isDigit = false)
    (hblank : Text.isBlank x = false) (rest : List Char) (n : Nat) :
    ∃ m, count false ⟨(toString k).toList ++ x :: rest, n⟩ = (.ok k, ⟨x :: rest, m⟩) := by
  obtain ⟨d, ds, hrepr, hall, hvalue⟩ := exists_digits_toString k
  have hskip : skipBlanks ⟨d :: ds ++ x :: rest, n⟩ = ⟨d :: ds ++ x :: rest, n⟩ :=
    skipBlanks_of_head (isBlank_digit (hall d List.mem_cons_self)) _ n
  have hlength : (d :: ds).length < (d :: ds ++ x :: rest).length + 1 := by simp
  have hdigits := digits_append hall hdigit rest hlength n
  have hempty : ((d :: ds).map fun d => d.toNat - 0x30).isEmpty = false := rfl
  refine ⟨n + (d :: ds).length, ?_⟩
  unfold count
  rw [hrepr, hskip]
  dsimp only
  rw [hdigits]
  dsimp only
  rw [skipBlanks_of_head hblank, foldl_digits, hvalue, hempty, if_neg (by simp), if_pos hk]
  rfl

end Counts

end Keypad.Pattern.Parser
