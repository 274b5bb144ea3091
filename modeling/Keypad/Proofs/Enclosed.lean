import Keypad.Proofs.Anchored
import Keypad.Proofs.Prolonged
/-!
Reading a pattern between anchors. The run over the pattern alone and the run over its text inside a
group take the same steps, up to places, until the pattern ends; the group then holds what the
pattern alone is read as.
-/
namespace Keypad.Pattern

theorem Primitive.unplaced_toExpr (p : Primitive) : p.toExpr.unplaced = p.unplaced.toExpr := by
  cases p <;> rfl

theorem Expr.repeatable_unplaced {e : Expr} : e.unplaced.Repeatable ↔ e.Repeatable := by
  cases e <;> rfl

namespace Parser

def Row.unplaced (r : Row) : List Expr := r.items.map Expr.unplaced

def Frame.unplaced : Frame → Frame
  | .group outer _ kind verbose => .group ⟨0, outer.unplaced⟩ 0 kind verbose
  | .alternation _ branches => .alternation 0 (branches.map Expr.unplaced)

def enclosing (outer : List Expr) : Frame := .group ⟨0, outer⟩ 0 (.scoped []) false

/-- The first run stands inside the group where the second stands in the pattern alone. -/
structure State.Prolongs (outer : List Expr) (s' s : State) : Prop where
  cursor : s'.cursor.Prolongs s.cursor
  verbose : s'.verbose = s.verbose
  row : s'.row.unplaced = s.row.unplaced
  frames : s'.frames.map Frame.unplaced = s.frames.map Frame.unplaced ++ [enclosing outer]
  captures : s'.captures = s.captures
  names : s'.names = s.names

section Rows

variable {outer : List Expr} {r r' : Row} {e e' : Expr} {stop stop' : Nat}
  {frames frames' : List Frame}

theorem Row.unplaced_push (hr : r'.unplaced = r.unplaced) (he : e'.unplaced = e.unplaced) :
    (r'.push e').unplaced = (r.push e).unplaced := by
  show e'.unplaced :: r'.unplaced = e.unplaced :: r.unplaced
  rw [he, hr]

theorem Row.unplaced_toExpr (r : Row) (stop : Nat) : (r.toExpr stop).unplaced =
    match r.unplaced with
    | [] => .empty .anywhere
    | [e] => e
    | es => .concat .anywhere es.reverse := by
  unfold toExpr unplaced
  split
  · next h => rw [h]; rfl
  · next e h => rw [h]; rfl
  · next hnil hone =>
    cases h : r.items with
    | nil => exact absurd h hnil
    | cons e rest =>
      cases rest with
      | nil => exact absurd h (hone e)
      | cons e' rest => simp [Expr.unplaced, Expr.allUnplaced_eq]

theorem unplaced_toExpr_congr (hr : r'.unplaced = r.unplaced) :
    (r'.toExpr stop').unplaced = (r.toExpr stop).unplaced := by
  rw [Row.unplaced_toExpr, Row.unplaced_toExpr, hr]

theorem eq_of_enclosing (h : frames.map Frame.unplaced = [enclosing outer]) :
    ∃ (row : Row) (start : Nat),
    frames = [.group row start (.scoped []) false] ∧ row.unplaced = outer := by
  obtain ⟨f, rest, rfl, hf, hrest⟩ := List.map_eq_cons_iff.mp h
  obtain rfl := List.map_eq_nil_iff.mp hrest
  cases f with
  | alternation start branches => cases hf
  | group row start kind verbose =>
    obtain ⟨hrow, -, rfl, rfl⟩ := Frame.group.inj hf
    exact ⟨row, start, rfl, (Row.mk.inj hrow).2⟩

theorem frames_cases
    (h : frames'.map Frame.unplaced = frames.map Frame.unplaced ++ [enclosing outer]) :
    (∃ (row : Row) (start : Nat), frames = [] ∧ frames' = [.group row start (.scoped []) false] ∧
        row.unplaced = outer) ∨
    (∃ row row' start start' kind verbose rest rest',
      frames = .group row start kind verbose :: rest ∧
        frames' = .group row' start' kind verbose :: rest' ∧ row'.unplaced = row.unplaced ∧
        rest'.map Frame.unplaced = rest.map Frame.unplaced ++ [enclosing outer]) ∨
    ∃ start start' branches branches' rest rest', frames = .alternation start branches :: rest ∧
        frames' = .alternation start' branches' :: rest' ∧
        branches'.map Expr.unplaced = branches.map Expr.unplaced ∧
        rest'.map Frame.unplaced = rest.map Frame.unplaced ++ [enclosing outer] := by
  cases frames with
  | nil =>
    obtain ⟨row, start, hgroup, hrow⟩ := eq_of_enclosing h
    exact Or.inl ⟨row, start, rfl, hgroup, hrow⟩
  | cons f rest =>
    obtain ⟨f', rest', rfl, hf, hrest⟩ := List.map_eq_cons_iff.mp h
    cases f with
    | group row start kind verbose =>
      cases f' with
      | alternation start' branches' => cases hf
      | group row' start' kind' verbose' =>
        obtain ⟨hrow, -, rfl, rfl⟩ := Frame.group.inj hf
        exact Or.inr (Or.inl ⟨row, row', start, start', _, _, rest, rest', rfl, rfl,
          (Row.mk.inj hrow).2, hrest⟩)
    | alternation start branches =>
      cases f' with
      | group row' start' kind' verbose' => cases hf
      | alternation start' branches' =>
        obtain ⟨-, hbranches⟩ := Frame.alternation.inj hf
        exact Or.inr (Or.inr ⟨start, start', branches, branches', rest, rest', rfl, rfl,
          hbranches, hrest⟩)

theorem collect_unplaced (hrow : r'.unplaced = r.unplaced)
    (h : frames'.map Frame.unplaced = frames.map Frame.unplaced ++ [enclosing outer]) :
    (collect r' stop' frames').1.unplaced = (collect r stop frames).1.unplaced ∧
      (collect r' stop' frames').2.map Frame.unplaced =
        (collect r stop frames).2.map Frame.unplaced ++ [enclosing outer] := by
  have hbody : (r'.toExpr stop').unplaced = (r.toExpr stop).unplaced := unplaced_toExpr_congr hrow
  rcases frames_cases h with ⟨row, start, rfl, rfl, hrow⟩ |
    ⟨row, row', start, start', kind, verbose, rest, rest', rfl, rfl, hrow, hrest⟩ |
    ⟨start, start', branches, branches', rest, rest', rfl, rfl, hbranches, hrest⟩
  · exact ⟨hbody, h⟩
  · exact ⟨hbody, h⟩
  · refine ⟨?_, hrest⟩
    simp only [collect, Expr.unplaced, Expr.allUnplaced_eq, List.map_reverse, List.map_cons,
      hbody, hbranches]

end Rows

section Counts

variable {verbose : Bool} {c c' : Cursor} {fuel fuel' : Nat}

theorem takeWhile_isBlank (h : c'.Prolongs c) :
    c'.rest.takeWhile Text.isBlank = c.rest.takeWhile Text.isBlank := by
  rcases h with h | ⟨h, h'⟩
  · have hclosing : closing.takeWhile Text.isBlank = [] := by decide
    rw [h, List.takeWhile_append]
    split_ifs with hlength
    · rw [hclosing, List.append_nil]
      exact ((List.takeWhile_prefix _).eq_of_length hlength).symm
    · rfl
  · rw [h, h']

theorem skipBlanks_prolongs (h : c'.Prolongs c) : (skipBlanks c').Prolongs (skipBlanks c) := by
  have hle : (c.rest.takeWhile Text.isBlank).length ≤ c.rest.length :=
    (List.takeWhile_prefix _).length_le
  unfold skipBlanks
  rw [takeWhile_isBlank h]
  rcases h with h | ⟨h, h'⟩
  · exact Or.inl (by rw [h]; exact List.drop_append_of_le_length hle)
  · exact Or.inr ⟨by simp [h], by simp [h']⟩

theorem offset_skipBlanks (h : c'.Prolongs c) :
    ((skipBlanks c').offset != c'.offset) = ((skipBlanks c).offset != c.offset) := by
  unfold skipBlanks
  rw [takeWhile_isBlank h, Bool.eq_iff_iff, bne_iff_ne, bne_iff_ne]
  dsimp only
  omega

theorem length_skipBlanks_le (c : Cursor) : (skipBlanks c).rest.length ≤ c.rest.length := by
  simp [skipBlanks]

theorem digits_eq_takeNext (verbose : Bool) (fuel : Nat) (c : Cursor) : digits verbose fuel c =
    ((takeNext Char.isDigit verbose fuel c).1.map (·.toNat - 0x30),
      (takeNext Char.isDigit verbose fuel c).2) := by
  induction fuel generalizing c with
  | zero => rfl
  | succ fuel ih =>
    rw [digits, takeNext, ih]
    cases c.head? with
    | none => rfl
    | some ch =>
      dsimp only
      by_cases h : ch.isDigit = true
      · rw [if_pos h, if_pos (isDigit_iff.mp h)]
        rfl
      · rw [if_neg h, if_neg (mt isDigit_iff.mpr h)]
        rfl

theorem count_prolongs (verbose : Bool) (h : c'.Prolongs c) :
    Echoes Eq (count verbose c).1 (count verbose c').1 ∧
    (count verbose c').2.Prolongs (count verbose c).2 ∧
      (count verbose c).2.rest.length ≤ c.rest.length := by
  have hstart := skipBlanks_prolongs h
  have hle := length_skipBlanks_le c
  have hdigits := takeNext_prolongs Char.isDigit (by decide) verbose (Nat.lt_succ_self _)
    (Nat.lt_succ_self _) hstart
  unfold count
  dsimp only
  rw [digits_eq_takeNext, digits_eq_takeNext]
  generalize takeNext Char.isDigit verbose ((skipBlanks c).rest.length + 1) (skipBlanks c) = read
    at hdigits ⊢
  generalize takeNext Char.isDigit verbose ((skipBlanks c').rest.length + 1) (skipBlanks c') = read'
    at hdigits ⊢
  obtain ⟨ds, d⟩ := read
  obtain ⟨ds', d'⟩ := read'
  obtain ⟨rfl, hd, hle'⟩ : ds' = ds ∧ d'.Prolongs d ∧ d.rest.length ≤ _ := hdigits
  have hle₂ := length_skipBlanks_le d
  refine ⟨?_, ?_, ?_⟩
  · dsimp only
    split
    · exact .error
    · split
      · exact .ok rfl
      · exact .error
  · dsimp only
    rw [offset_skipBlanks hd]
    exact (skipBlanks_prolongs hd).skip _
  · have hle₃ := Cursor.length_skip_le (verbose && (skipBlanks d).offset != d.offset) (skipBlanks d)
    dsimp only
    omega

end Counts

section Groups

variable {c c' : Cursor} {fuel fuel' : Nat}

theorem readsOn_flagItems (done : List FlagItem) (hfuel : fuel ≤ fuel') (h : c'.Prolongs c) :
    ReadsOn c.rest.length id (flagItems fuel done c) (flagItems fuel' done c') := by
  induction fuel generalizing fuel' c c' done with
  | zero => exact .error
  | succ fuel ih =>
    obtain ⟨fuel', rfl⟩ := Nat.exists_eq_add_one_of_ne_zero (Nat.ne_zero_of_lt hfuel)
    have hfuel := Nat.le_of_succ_le_succ hfuel
    rw [flagItems, flagItems]
    cases hc : c.head? with
    | none => exact .error
    | some ch =>
      have hlength := Cursor.length_bump hc
      have hle : c.bump.rest.length ≤ c.rest.length := by omega
      have hbump := h.bump hc
      rw [h.head? hc]
      dsimp only
      split
      · split
        · exact .error
        · exact .ok rfl (Nat.le_refl _) h
      split
      · split
        · exact .error
        · exact (ih _ hfuel hbump).mono hle
      split
      · exact .error
      · split
        · exact .error
        · exact (ih _ hfuel hbump).mono hle

theorem head?_of_flagItems {done items : List FlagItem} {d : Cursor}
    (h : flagItems fuel done c = .ok (items, d)) :
    d.head? = some ':' ∨ d.head? = some ')' := by
  induction fuel generalizing done c with
  | zero => cases h
  | succ fuel ih =>
    rw [flagItems] at h
    split at h
    · cases h
    · next ch hc =>
      split at h
      · next hsign =>
        split at h
        · cases h
        · obtain ⟨-, rfl⟩ := Prod.mk.inj (Except.ok.inj h)
          rcases hsign with rfl | rfl
          · exact Or.inl hc
          · exact Or.inr hc
      split at h
      · split at h
        · cases h
        · exact ih h
      split at h
      · cases h
      · split at h
        · cases h
        · exact ih h

theorem readsOn_nameChars (first : Bool) (cs : List Char) (n n' : Nat) :
    ReadsOn cs.length id (nameChars first cs n) (nameChars first (cs ++ closing) n') := by
  induction cs generalizing first n n' with
  | nil => exact .error
  | cons x cs ih =>
    rw [List.cons_append, nameChars, nameChars]
    split
    · exact .ok rfl (Nat.le_refl _) (Or.inl rfl)
    split
    · exact .error
    · exact (ih false (n + 1) (n' + 1)).bind fun name name' d d' _ hname hd hlength =>
        .ok (congrArg (x :: ·) hname) (Nat.le_succ_of_le hlength) hd

theorem head?_of_nameChars {first : Bool} {cs name : List Char} {n : Nat} {d : Cursor}
    (h : nameChars first cs n = .ok (name, d)) : d.head? = some '>' := by
  induction cs generalizing first n name with
  | nil => cases h
  | cons x cs ih =>
    rw [nameChars] at h
    split at h
    · next hx =>
      obtain ⟨-, rfl⟩ := Prod.mk.inj (Except.ok.inj h)
      exact congrArg some hx
    split at h
    · cases h
    · obtain ⟨⟨name', d'⟩, hname, h⟩ := Except.bind_eq_ok.mp h
      obtain ⟨-, rfl⟩ := Prod.mk.inj (Except.ok.inj h)
      exact ih hname

theorem readsOn_groupName (names : List String) (h : c'.Prolongs c) :
    ReadsOn c.rest.length id (groupName names c) (groupName names c') := by
  have hchars : ReadsOn c.rest.length id (nameChars true c.rest c.offset)
      (nameChars true c'.rest c'.offset) := by
    rcases h with h | ⟨h, h'⟩
    · rw [h]
      exact readsOn_nameChars _ _ _ _
    · rw [h, h']
      exact .error
  unfold groupName
  refine hchars.bind fun name name' d d' hread hname hd hlength => ?_
  obtain rfl : name' = name := hname
  have hsign := head?_of_nameChars hread
  have hbump := Cursor.length_bump hsign
  dsimp only
  split
  · exact .error
  split
  · exact .error
  · exact .ok rfl (by omega) (hd.bump hsign)

theorem nameSign_prolongs (h : c'.Prolongs c) :
    Option.Rel (fun d d' => d'.Prolongs d ∧ d.rest.length ≤ c.rest.length)
      ((c.take? "?P<").orElse fun _ => c.take? "?<")
        ((c'.take? "?P<").orElse fun _ => c'.take? "?<") := by
  have hplain : Option.Rel _ (c.take? "?P<") (c'.take? "?P<") := h.take? (by decide)
  have hnamed : Option.Rel _ (c.take? "?<") (c'.take? "?<") := h.take? (by decide)
  generalize c.take? "?P<" = plain, c'.take? "?P<" = plain' at hplain ⊢
  generalize c.take? "?<" = named, c'.take? "?<" = named' at hnamed ⊢
  cases hplain with
  | none => exact hnamed
  | some h => exact .some h

theorem isLookaround_prolongs (h : c'.Prolongs c) : isLookaround c' = isLookaround c := by
  have hsign : ∀ {text : String},
      ')' ∉ text.toList → (c'.take? text).isSome = (c.take? text).isSome := by
    intro text htext
    have hrel := h.take? htext
    generalize c.take? text = d, c'.take? text = d' at hrel
    cases hrel <;> rfl
  simp only [isLookaround, List.any_cons, List.any_nil]
  rw [hsign (by decide), hsign (by decide), hsign (by decide), hsign (by decide)]

end Groups

section Steps

variable {outer : List Expr} {s s' : State}

def StepsOn (outer : List Expr) (n : Nat) (t t' : State) : Prop :=
  t'.Prolongs outer t ∧ t.cursor.rest.length < n

theorem State.Prolongs.nextBranch (h : s'.Prolongs outer s) {x : Char}
    (hc : s.cursor.head? = some x) :
    StepsOn outer s.cursor.rest.length (nextBranch s) (nextBranch s') := by
  have hbranch : (s'.row.toExpr s'.cursor.offset).unplaced =
      (s.row.toExpr s.cursor.offset).unplaced :=
    unplaced_toExpr_congr h.row
  have hlength := Cursor.length_bump hc
  refine ⟨⟨h.cursor.bump hc, h.verbose, rfl, ?_, h.captures, h.names⟩,
    by show s.cursor.bump.rest.length < _; omega⟩
  have hrow := h.row
  unfold Parser.nextBranch
  dsimp only
  rcases frames_cases h.frames with ⟨row, start, hs, hs', -⟩ |
    ⟨row, row', start, start', kind, verbose, rest, rest', hs, hs', -, hrest⟩ |
    ⟨start, start', branches, branches', rest, rest', hs, hs', hbranches, hrest⟩
  · have hframes := h.frames
    rw [hs, hs'] at hframes ⊢
    simpa [Frame.unplaced, hbranch] using hframes
  · have hframes := h.frames
    rw [hs, hs'] at hframes ⊢
    simpa [Frame.unplaced, hbranch] using hframes
  · rw [hs, hs']
    simp [Frame.unplaced, hbranch, hbranches, hrest]

theorem State.Prolongs.closeGroup (h : s'.Prolongs outer s) {x : Char}
    (hc : s.cursor.head? = some x) :
    Echoes (StepsOn outer s.cursor.rest.length) (closeGroup s) (closeGroup s') := by
  have hlength := Cursor.length_bump hc
  have hcollect : (collect s'.row s'.cursor.offset s'.frames).1.unplaced =
      (collect s.row s.cursor.offset s.frames).1.unplaced ∧ _ := collect_unplaced h.row h.frames
  unfold Parser.closeGroup
  generalize collect s.row s.cursor.offset s.frames = collected at hcollect ⊢
  generalize collect s'.row s'.cursor.offset s'.frames = collected' at hcollect ⊢
  obtain ⟨body, frames⟩ := collected
  obtain ⟨body', frames'⟩ := collected'
  obtain ⟨hbody, hframes⟩ := hcollect
  rcases frames_cases hframes with ⟨row, start, rfl, rfl, -⟩ |
    ⟨row, row', start, start', kind, verbose, rest, rest', rfl, rfl, hrow, hrest⟩ |
    ⟨start, start', branches, branches', rest, rest', rfl, rfl, -, -⟩
  · exact .error
  · have hgroup : (Expr.group ⟨start', s'.cursor.bump.offset⟩ kind body').unplaced =
        (Expr.group ⟨start, s.cursor.bump.offset⟩ kind body).unplaced :=
          congrArg (Expr.group .anywhere kind) hbody
    refine .ok ⟨⟨h.cursor.bump hc, rfl, Row.unplaced_push hrow hgroup, hrest,
      h.captures, h.names⟩, ?_⟩
    show s.cursor.bump.rest.length < _
    omega
  · exact .error

theorem repeatable_of_operand {span : Span} {e : Expr} {row : Row}
    (h : operand s span = .ok (e, row)) :
    e.Repeatable := by
  unfold operand at h
  split at h
  · cases h
  · cases h
  · cases h
  · next e' rest hempty hflags _ =>
    obtain ⟨rfl, -⟩ := Prod.mk.inj (Except.ok.inj h)
    cases e' with
    | empty span => exact hempty span rfl
    | flags span items => exact hflags span items rfl
    | _ => trivial

theorem State.Prolongs.operand (h : s'.Prolongs outer s) (span span' : Span) :
    Echoes (fun p p' => p'.1.unplaced = p.1.unplaced ∧ p'.2.unplaced = p.2.unplaced)
      (operand s span) (operand s' span') := by
  rintro ⟨e, row⟩ hoperand
  obtain ⟨rest, hitems, rfl⟩ := operand_eq_ok hoperand
  have hrow : s'.row.items.map Expr.unplaced = (e :: rest).map Expr.unplaced := hitems ▸ h.row
  obtain ⟨e', rest', hitems', he, hrest⟩ := List.map_eq_cons_iff.mp hrow
  have hrepeatable : e'.Repeatable := by
    rw [← Expr.repeatable_unplaced, he, Expr.repeatable_unplaced]
    exact repeatable_of_operand hoperand
  exact ⟨_, operand_of_items hitems' hrepeatable span', he, hrest⟩

theorem State.Prolongs.repeated (h : s'.Prolongs outer s) {row row' : Row} {e e' : Expr}
    {c c' : Cursor} (min : Nat) (max : Option Nat) (greedy : Bool)
    (hrow : row'.unplaced = row.unplaced) (he : e'.unplaced = e.unplaced) (hc : c'.Prolongs c)
    (hlt : c.rest.length < s.cursor.rest.length) :
    StepsOn outer s.cursor.rest.length (s.repeated row e min max greedy c)
      (s'.repeated row' e' min max greedy c') :=
  ⟨⟨hc, h.verbose, Row.unplaced_push hrow (congrArg (Expr.iterate .anywhere min max greedy) he),
    h.frames, h.captures, h.names⟩, hlt⟩

theorem State.Prolongs.signRepetition (h : s'.Prolongs outer s) {x : Char}
    (hx : s.cursor.head? = some x) (min : Nat) (max : Option Nat) :
    Echoes (StepsOn outer s.cursor.rest.length) (signRepetition s min max)
      (signRepetition s' min max) := by
  have hlength := Cursor.length_bump hx
  have hbump := h.cursor.bump hx
  unfold Parser.signRepetition
  refine (h.operand _ _).bind ?_
  rintro ⟨e, row⟩ ⟨e', row'⟩ - ⟨he, hrow⟩
  dsimp only
  refine Echoes.ite (hbump.head?_iff (by decide)) (fun hmark => ?_) fun _ => ?_
  · have hlength' := Cursor.length_bump hmark
    exact .ok (h.repeated _ _ _ hrow he (hbump.bump hmark) (by omega))
  · exact .ok (h.repeated _ _ _ hrow he hbump (by omega))

theorem State.Prolongs.closeCount (h : s'.Prolongs outer s) {row row' : Row} {e e' : Expr}
    {c c' : Cursor} (start start' min : Nat) (max : Option Nat)
    (hrow : row'.unplaced = row.unplaced) (he : e'.unplaced = e.unplaced) (hc : c'.Prolongs c)
    (hlt : c.rest.length < s.cursor.rest.length) :
    Echoes (StepsOn outer s.cursor.rest.length) (closeCount s row e start min max c)
      (closeCount s' row' e' start' min max c') := by
  unfold Parser.closeCount
  rw [h.verbose]
  refine Echoes.ite (not_congr (hc.head?_iff (by decide))) (fun _ => .error) fun hbrace => ?_
  rw [not_not] at hbrace
  have hlt' := Cursor.length_next_lt s.verbose hbrace
  have hnext := hc.next s.verbose hbrace
  dsimp only
  generalize c.next s.verbose = d at hlt' hnext ⊢
  generalize c'.next s.verbose = d' at hnext ⊢
  have hmark : (d'.head? = some '?') = (d.head? = some '?') := propext (hnext.head?_iff (by decide))
  by_cases hd : d.head? = some '?'
  · have hbump := Cursor.length_bump hd
    simp only [hmark, hd, decide_true, if_true]
    exact Echoes.ite Iff.rfl (fun _ => .ok (h.repeated _ _ _ hrow he (hnext.bump hd) (by omega)))
      fun _ => .error
  · simp only [hmark, hd, decide_false, if_false]
    exact Echoes.ite Iff.rfl (fun _ => .ok (h.repeated _ _ _ hrow he hnext (by omega)))
      fun _ => .error

theorem State.Prolongs.countedRepetition (h : s'.Prolongs outer s) {x : Char}
    (hx : s.cursor.head? = some x) :
    Echoes (StepsOn outer s.cursor.rest.length) (countedRepetition s) (countedRepetition s') := by
  have hlt := Cursor.length_next_lt s.verbose hx
  have hnext := h.cursor.next s.verbose hx
  unfold Parser.countedRepetition
  rw [h.verbose]
  refine (h.operand _ _).bind ?_
  rintro ⟨e, row⟩ ⟨e', row'⟩ - ⟨he, hrow⟩
  dsimp only
  generalize s.cursor.next s.verbose = c at hlt hnext ⊢
  generalize s'.cursor.next s.verbose = c' at hnext ⊢
  refine Echoes.unless_atEnd hnext fun _ _ => ?_
  obtain ⟨hfirst, hd, hle⟩ := count_prolongs s.verbose hnext
  generalize count s.verbose c = first at hfirst hd hle ⊢
  generalize count s.verbose c' = first' at hfirst hd ⊢
  obtain ⟨min, d⟩ := first
  obtain ⟨min', d'⟩ := first'
  dsimp only at hfirst hd hle ⊢
  refine Echoes.unless_atEnd hd fun _ _ => ?_
  refine Echoes.ite (hd.head?_iff (by decide)) (fun hcomma => ?_) fun _ => ?_
  · have hlt₂ := Cursor.length_next_lt s.verbose hcomma
    have hnext₂ := hd.next s.verbose hcomma
    generalize d.next s.verbose = k at hlt₂ hnext₂ ⊢
    generalize d'.next s.verbose = k' at hnext₂ ⊢
    refine Echoes.unless_atEnd hnext₂ fun _ _ => ?_
    refine Echoes.ite (hnext₂.head?_iff (by decide)) (fun _ => ?_) fun _ => ?_
    · refine hfirst.bind ?_
      rintro n _ - rfl
      exact h.closeCount _ _ _ _ hrow he hnext₂ (by omega)
    · refine hfirst.bind ?_
      rintro n _ - rfl
      obtain ⟨hsecond, hk, hle₂⟩ := count_prolongs s.verbose hnext₂
      refine hsecond.bind ?_
      rintro m _ - rfl
      exact h.closeCount _ _ _ _ hrow he hk (by omega)
  · refine hfirst.bind ?_
    rintro n _ - rfl
    exact h.closeCount _ _ _ _ hrow he hd (by omega)

theorem State.Prolongs.open (h : s'.Prolongs outer s) {c c' : Cursor} (start start' : Nat)
    (kind : GroupKind) (verbose : Bool) (hc : c'.Prolongs c) :
    (s'.open start' kind verbose c').Prolongs outer (s.open start kind verbose c) where
  cursor := hc
  verbose := rfl
  row := rfl
  frames := by
    have hframes := h.frames
    simp [State.open, Frame.unplaced, h.row, h.verbose, hframes]
  captures := h.captures
  names := h.names

theorem State.Prolongs.counted (h : s'.Prolongs outer s) (captures : Nat) (names : List String) :
    State.Prolongs outer { s' with verbose := s.verbose, captures, names }
      { s with captures, names } :=
  ⟨h.cursor, rfl, h.row, h.frames, rfl, rfl⟩

theorem State.Prolongs.openGroup (h : s'.Prolongs outer s) {x : Char}
    (hx : s.cursor.head? = some x) :
    Echoes (StepsOn outer s.cursor.rest.length) (openGroup s) (openGroup s') := by
  have hlt := Cursor.length_next_lt s.verbose hx
  have hnext := h.cursor.next s.verbose hx
  unfold Parser.openGroup
  dsimp only
  rw [h.verbose, h.names, h.captures]
  generalize s.cursor.next s.verbose = c at hlt hnext ⊢
  generalize s'.cursor.next s.verbose = c' at hnext ⊢
  rw [isLookaround_prolongs hnext]
  have hname := nameSign_prolongs hnext
  have hmark : Option.Rel _ (c.take? "?") (c'.take? "?") := hnext.take? (by decide)
  generalize ((c.take? "?P<").orElse fun _ => c.take? "?<") = sign,
    ((c'.take? "?P<").orElse fun _ => c'.take? "?<") = sign' at hname ⊢
  generalize c.take? "?" = mark, c'.take? "?" = mark' at hmark ⊢
  split
  · exact .error
  cases hname with
  | some hd =>
    refine Echoes.bind (readsOn_groupName _ hd.1) ?_
    rintro ⟨name, d⟩ ⟨name', d'⟩ - ⟨hname, hprolongs, hle⟩
    obtain rfl : name' = name := hname
    exact .ok ⟨(h.counted _ _).open _ _ _ _ hprolongs, (hle.trans hd.2).trans_lt hlt⟩
  | none =>
    cases hmark with
    | none => exact .ok ⟨(h.counted _ _).open _ _ _ _ hnext, hlt⟩
    | @some inner inner' hinner =>
      refine Echoes.unless_atEnd hinner.1 fun _ _ => ?_
      refine Echoes.bind (readsOn_flagItems [] (Nat.succ_le_succ hinner.1.length_le) hinner.1) ?_
      rintro ⟨items, stop⟩ ⟨items', stop'⟩ hread ⟨hitems, hstop, hle⟩
      obtain rfl : items' = items := hitems
      have hle' := hinner.2
      dsimp only at hstop hle ⊢
      obtain ⟨sign, hsign⟩ : ∃ sign, stop.head? = some sign := by
        rcases head?_of_flagItems hread with hsign | hsign
        · exact ⟨_, hsign⟩
        · exact ⟨_, hsign⟩
      have hbump := Cursor.length_bump hsign
      have hprolongs := hstop.bump hsign
      rw [hsign, hstop.head? hsign]
      split
      · split
        · exact .error
        · exact .ok ⟨⟨hprolongs, rfl, Row.unplaced_push h.row rfl, h.frames, rfl, rfl⟩,
            by dsimp only; omega⟩
      · exact .ok ⟨h.open _ _ _ _ hprolongs, by dsimp only [State.open]; omega⟩

theorem State.Prolongs.push (h : s'.Prolongs outer s) {c c' : Cursor} {e e' : Expr}
    (hc : c'.Prolongs c) (he : e'.unplaced = e.unplaced)
    (hlt : c.rest.length < s.cursor.rest.length) :
    StepsOn outer s.cursor.rest.length { s with cursor := c, row := s.row.push e }
      { s' with cursor := c', verbose := s.verbose, row := s'.row.push e' } :=
  ⟨⟨hc, rfl, Row.unplaced_push h.row he, h.frames, h.captures, h.names⟩, hlt⟩

theorem State.Prolongs.step (h : s'.Prolongs outer s) {x : Char} (hx : s.cursor.head? = some x) :
    Echoes (StepsOn outer s.cursor.rest.length) (step s) (step s') := by
  have hlength := Cursor.length_bump hx
  unfold Parser.step
  rw [h.cursor.head? hx, hx]
  split
  · exact h.openGroup hx
  · exact h.closeGroup hx
  · exact .ok (h.nextBranch hx)
  · have hfuel : 2 * s.cursor.rest.length + 2 ≤ 2 * s'.cursor.rest.length + 2 := by
      have := h.cursor.length_le
      omega
    rw [h.verbose]
    refine Echoes.bind ((readsOn_class s.verbose _).1 hfuel h.cursor hx) ?_
    rintro ⟨span, negated, body, c⟩ ⟨span', negated', body', c'⟩ - ⟨hnegated, hbody, hc, hlt⟩
    have he : (Expr.bracketed span' negated' body').unplaced =
        (Expr.bracketed span negated body).unplaced := by
      dsimp only at hnegated hbody
      rw [Expr.unplaced, Expr.unplaced, hnegated, hbody]
    exact .ok (h.push hc he hlt)
  · exact h.signRepetition hx _ _
  · exact h.signRepetition hx _ _
  · exact h.signRepetition hx _ _
  · exact h.countedRepetition hx
  · rw [h.verbose]
    refine Echoes.bind (readsOn_primitive h.cursor hx) ?_
    rintro ⟨p, c⟩ ⟨p', c'⟩ - ⟨hp, hc, hle⟩
    have he : p'.toExpr.unplaced = p.toExpr.unplaced := by
      rw [Primitive.unplaced_toExpr, Primitive.unplaced_toExpr]
      exact congrArg Primitive.toExpr hp
    exact .ok (h.push hc he (by dsimp only at hle; omega))

end Steps

section Runs

variable {outer : List Expr} {s s' z : State}

@[simp] theorem skipFrom_skipFrom (inComment : Bool) (cs : List Char) (n : Nat) :
    Cursor.skipFrom false (Cursor.skipFrom inComment cs n).rest
      (Cursor.skipFrom inComment cs n).offset =
      Cursor.skipFrom inComment cs n := by
  induction cs generalizing inComment n with
  | nil => rfl
  | cons x cs ih =>
    rw [Cursor.skipFrom]
    split_ifs with hcomment hblank hsign
    · exact ih _ _
    · exact ih _ _
    · exact ih _ _
    · rw [Cursor.skipFrom, if_neg (by simp), if_neg hblank, if_neg hsign]

@[simp] theorem skip_skip (verbose : Bool) (c : Cursor) :
    (c.skip verbose).skip verbose = c.skip verbose := by
  cases verbose with
  | false => rfl
  | true => exact skipFrom_skipFrom _ _ _

theorem run_skip (fuel : Nat) (s : State) :
    run fuel { s with cursor := s.cursor.skip s.verbose } = run fuel s := by
  rw [run.eq_def, run.eq_def fuel s]
  dsimp only
  rw [skip_skip]

theorem run_step {fuel : Nat} {t : State} (hend : ¬ (s.cursor.skip s.verbose).atEnd = true)
    (hstep : step { s with cursor := s.cursor.skip s.verbose } = .ok t) :
    run (fuel + 1) s = run fuel t := by
  rw [run]
  dsimp only
  rw [if_neg hend, hstep]

theorem State.Prolongs.skip (h : s'.Prolongs outer s) :
    State.Prolongs outer { s' with cursor := s'.cursor.skip s'.verbose }
      { s with cursor := s.cursor.skip s.verbose } := by
  refine ⟨?_, h.verbose, h.row, h.frames, h.captures, h.names⟩
  rw [h.verbose]
  exact h.cursor.skip _

theorem run_of_atEnd {fuel : Nat} (hend : (s.cursor.skip s.verbose).atEnd = true) :
    run fuel s = .ok { s with cursor := s.cursor.skip s.verbose } := by
  rw [run.eq_def]
  dsimp only
  rw [if_pos hend]

theorem State.Prolongs.run {fuel : Nat} (h : s'.Prolongs outer s)
    (hfuel : s.cursor.rest.length ≤ fuel) (hrun : run fuel s = .ok z) :
    z.cursor.rest = [] ∧ ∃ (z' : State) (n : Nat), z'.Prolongs outer z ∧ n ≤ s.cursor.rest.length ∧
      ∀ k, Parser.run (k + n) s' = Parser.run k z' := by
  induction fuel generalizing s s' with
  | zero =>
    have hle := Cursor.length_skip_le s.verbose s.cursor
    have hnil : (s.cursor.skip s.verbose).rest = [] := List.eq_nil_of_length_eq_zero (by omega)
    rw [run_of_atEnd (Cursor.atEnd_iff.mpr hnil)] at hrun
    obtain rfl := Except.ok.inj hrun
    exact ⟨hnil, _, 0, h.skip, Nat.zero_le _, fun k => (run_skip k s').symm⟩
  | succ fuel ih =>
    have hle := Cursor.length_skip_le s.verbose s.cursor
    by_cases hend : (s.cursor.skip s.verbose).atEnd = true
    · rw [run_of_atEnd hend] at hrun
      obtain rfl := Except.ok.inj hrun
      exact ⟨Cursor.atEnd_iff.mp hend, _, 0, h.skip, Nat.zero_le _, fun k => (run_skip k s').symm⟩
    rw [Parser.run] at hrun
    dsimp only at hrun
    rw [if_neg hend] at hrun
    obtain ⟨x, hx⟩ := Cursor.exists_head? hend
    split at hrun
    · next t ht =>
      obtain ⟨t', ht', hprolongs, hlt⟩ := h.skip.step hx t ht
      dsimp only at hlt
      obtain ⟨hz, z', n, hz', hn, hrun'⟩ := ih hprolongs (by omega) hrun
      refine ⟨hz, z', n + 1, hz', by omega, fun k => ?_⟩
      have hend' : ¬ (s'.cursor.skip s'.verbose).atEnd = true := h.skip.cursor.atEnd hend
      rw [← Nat.add_assoc, run_step hend' ht', hrun' k]
    · cases hrun

end Runs

section Whole

variable {outer : List Expr} {s z : State} {e : Expr} {row : Row} {body : Expr} {start : Nat}

theorem run_opening (rest : List Char) (fuel : Nat) :
    run (fuel + 2) ⟨⟨'^' :: '(' :: '?' :: ':' :: rest, 0⟩, false, ⟨0, []⟩, [], 0, []⟩ =
      run fuel ⟨⟨rest, 4⟩, false, ⟨4, []⟩,
        [.group ⟨0, [.assertion ⟨0, 1⟩ .lineStart]⟩ 1 (.scoped []) false], 0, []⟩ := rfl

theorem run_closing (hrest : s.cursor.rest = closing)
    (hcollect : collect s.row s.cursor.offset s.frames =
      (body, [.group row start (.scoped []) false])) (fuel : Nat) :
    ∃ second third stop, run (fuel + 2) s = .ok ⟨⟨[], stop⟩, false,
      (row.push (.group second (.scoped []) body)).push (.assertion third .lineEnd), [], s.captures,
      s.names⟩ := by
  obtain ⟨⟨text, n⟩, verbose, srow, frames, captures, names⟩ := s
  dsimp only at hrest hcollect
  subst hrest
  have hskip : Cursor.skip verbose ⟨closing, n⟩ = ⟨closing, n⟩ := by cases verbose <;> rfl
  have hclose : step ⟨⟨closing, n⟩, verbose, srow, frames, captures, names⟩ =
      .ok ⟨⟨['$'], n + 1⟩, false,
      row.push (.group ⟨start, n + 1⟩ (.scoped []) body), [], captures, names⟩ := by
    show Parser.closeGroup _ = _
    unfold closeGroup
    dsimp only
    rw [hcollect]
    rfl
  have hend : ∀ row : Row, run fuel ⟨⟨[], n + 2⟩, false, row, [], captures, names⟩ =
      .ok ⟨⟨[], n + 2⟩, false, row, [], captures, names⟩ := fun row => run_of_atEnd rfl
  refine ⟨⟨start, n + 1⟩, ⟨n + 1, n + 2⟩, n + 2, ?_⟩
  rw [run_step (by rw [hskip]; exact nofun) (by rw [hskip]; exact hclose)]
  exact hend _

theorem State.Prolongs.complete (h : z.Prolongs outer s) (hfinish : finish s = .ok e) (stop : Nat) :
    ∃ body row start, collect z.row stop z.frames = (body, [.group row start (.scoped []) false]) ∧
      body.unplaced = e.unplaced ∧ row.unplaced = outer := by
  have hboth : (collect z.row stop z.frames).1.unplaced =
      (collect s.row s.cursor.offset s.frames).1.unplaced ∧ _ :=
    collect_unplaced h.row h.frames
  rw [finish_eq_ok hfinish] at hboth
  obtain ⟨row, start, hgroup, hrow⟩ := eq_of_enclosing hboth.2
  exact ⟨_, row, start, Prod.ext rfl hgroup, hboth.1, hrow⟩

theorem State.Prolongs.unclosed (h : z.Prolongs outer s) (hfinish : finish s = .ok e)
    (hrest : z.cursor.rest = []) {fuel : Nat} {t : State} (ht : Parser.run fuel z = .ok t)
    (e' : Expr) : finish t ≠ .ok e' := by
  intro hfinish'
  have hskip : (z.cursor.skip z.verbose).atEnd = true := by
    have hle := Cursor.length_skip_le z.verbose z.cursor
    rw [hrest] at hle
    exact Cursor.atEnd_iff.mpr (List.eq_nil_of_length_eq_zero (Nat.le_zero.mp hle))
  rw [run_of_atEnd hskip] at ht
  obtain rfl := Except.ok.inj ht
  obtain ⟨body, row, start, hcollect, -⟩ := h.complete hfinish (z.cursor.skip z.verbose).offset
  have hopen := hcollect.symm.trans (finish_eq_ok hfinish')
  cases hopen

theorem finish_closed (hrow : row.unplaced = [.assertion .anywhere .lineStart])
    {second third : Span} {stop captures : Nat} {names : List String}
    (h : finish ⟨⟨[], stop⟩, false,
      (row.push (.group second (.scoped []) body)).push (.assertion third .lineEnd), [], captures,
      names⟩ = .ok e) :
    ∃ span first, e =
      .concat span [.assertion first .lineStart, .group second (.scoped []) body,
        .assertion third .lineEnd] := by
  obtain ⟨a, hitems, ha⟩ := List.map_eq_singleton_iff.mp hrow
  obtain ⟨first, rfl⟩ : ∃ first, a = .assertion first .lineStart := by
    cases a with
    | assertion first a => exact ⟨first, congrArg (Expr.assertion first) (Expr.assertion.inj ha).2⟩
    | _ => cases ha
  have hparts : ((row.push (.group second (.scoped []) body)).push
      (.assertion third .lineEnd)).items =
      [.assertion first .lineStart, .group second (.scoped []) body,
        .assertion third .lineEnd].reverse := by
    rw [Row.push, Row.push, hitems]
    rfl
  have he := (Prod.mk.inj (finish_eq_ok h)).1.symm
  rw [Row.toExpr_of_many hparts (by simp)] at he
  exact ⟨_, first, he⟩

/-- Between anchors a pattern is read as what it is read as alone, up to places. -/
theorem parse_between {pattern : String} {e' : Expr} (h : Expr.parse pattern = .ok e)
    (h' : Expr.parse ("^(?:" ++ pattern ++ ")$") = .ok e') : ∃ span first second third body,
      e' = .concat span [.assertion first .lineStart, .group second (.scoped []) body,
        .assertion third .lineEnd] ∧
        body.unplaced = e.unplaced := by
  obtain ⟨s, hs, hfinish, -⟩ := exists_run_of_parse h
  obtain ⟨t, ht, hfinish', -⟩ := exists_run_of_parse h'
  have htext : ("^(?:" ++ pattern ++ ")$").toList =
      '^' :: '(' :: '?' :: ':' :: (pattern.toList ++ closing) := by
    simp [String.toList_append, closing]
  have hlength : ("^(?:" ++ pattern ++ ")$").length + 1 = pattern.length + 5 + 2 := by
    rw [← String.length_toList, htext]
    simp [closing, String.length_toList]
  rw [hlength, State.start, Cursor.ofText, htext, run_opening] at ht
  have hopened : State.Prolongs [.assertion .anywhere .lineStart]
      ⟨⟨pattern.toList ++ closing, 4⟩, false, ⟨4, []⟩,
      [.group ⟨0, [.assertion ⟨0, 1⟩ .lineStart]⟩ 1 (.scoped []) false], 0, []⟩
        (State.start pattern) :=
    ⟨Or.inl rfl, rfl, rfl, rfl, rfl, rfl⟩
  have hstart : (State.start pattern).cursor.rest.length = pattern.length := String.length_toList
  obtain ⟨hend, z, n, hz, hn, hrun⟩ := hopened.run (by omega) hs
  rw [show pattern.length + 5 = (pattern.length + 5 - n) + n by omega, hrun] at ht
  rcases hz.cursor with hrest | ⟨-, hrest⟩
  · rw [hend, List.nil_append] at hrest
    obtain ⟨body, row, start, hcollect, hbody, hrow⟩ := hz.complete hfinish z.cursor.offset
    obtain ⟨second, third, stop, hclosed⟩ := run_closing hrest hcollect (pattern.length + 3 - n)
    rw [show pattern.length + 5 - n = pattern.length + 3 - n + 2 by omega, hclosed] at ht
    obtain rfl := Except.ok.inj ht
    obtain ⟨span, first, he'⟩ := finish_closed hrow hfinish'
    exact ⟨span, first, second, third, body, he', hbody⟩
  · exact absurd hfinish' (hz.unclosed hfinish hrest ht e')

end Whole

end Parser

theorem matches_between (span first second third : Span) (body : Expr) (text : List UInt8) :
    (Flags.initial false).Matches
      (.concat span [.assertion first .lineStart, .group second (.scoped []) body,
      .assertion third .lineEnd]) [] text [] ↔ (Flags.initial false).Matches body [] text [] := by
  have hall : (Flags.initial false).Matches (.concat span [.assertion first .lineStart,
      .group second (.scoped []) body, .assertion third .lineEnd]) =
        (Form.look .textStart).Matches.append
        (((Flags.initial false).Matches body).append (Form.look .textEnd).Matches) := by
    show Between.append _ (Between.append _ (Between.all [_])) = _
    rw [Between.all_singleton]
    rfl
  rw [hall, Form.append_ends]
  simp

theorem language_between {pattern : String} {e e' : Expr} (h : Expr.parse pattern = .ok e)
    (h' : Expr.parse ("^(?:" ++ pattern ++ ")$") = .ok e') (text : List UInt8) :
    Language ("^(?:" ++ pattern ++ ")$") text ↔ Language pattern text := by
  rw [language_iff h, language_iff h']
  obtain ⟨span, first, second, third, body, rfl, hbody⟩ := Parser.parse_between h h'
  rw [matches_between, ← Flags.matches_unplaced, hbody, Flags.matches_unplaced]

end Keypad.Pattern

namespace Keypad.Matcher

open Keypad.Automaton Keypad.Pattern

variable {engine engine' : Engine} {pattern : String} {limits limits' : Limits} {m m' : Matcher}

/-- Anchors around a whole pattern make no difference to any answer, whatever flags, look-around,
anchors or alternatives stand in the pattern. -/
theorem anchored_classifies_alike (h : compile engine pattern limits = .ok m)
    (h' : compile engine' ("^(?:" ++ pattern ++ ")$") limits' = .ok m') (buffer : String) :
    m'.classifyText buffer = m.classifyText buffer := by
  obtain ⟨e, he⟩ := exists_parse_of_compile h
  obtain ⟨e', he'⟩ := exists_parse_of_compile h'
  exact classifyBytes_congr h h' (language_between he he') _

/-- Flags for lines and for comments, a branch that ends in an anchor and a comment stay inside the
anchors. -/
theorem anchored_classifies_alike_lines : ∃ m m' : Matcher,
    compile .typical "(?mx)1$|2 # two\n" ⟨none, none, false⟩ = .ok m ∧
      compile .typical ("^(?:" ++ "(?mx)1$|2 # two\n" ++ ")$") ⟨none, none, true⟩ = .ok m' ∧
      m'.classifyText "1" = m.classifyText "1" := by
  have hform : Form.parse false "(?mx)1$|2 # two\n" =
      .ok (.alt (.seq (.literal [0x31]) (.look (.lineEnd false))) (.literal [0x32])) := by
    decide +kernel
  have hform' : Form.parse false ("^(?:" ++ "(?mx)1$|2 # two\n" ++ ")$") =
      .ok (Form.anchored (.alt (.seq (.literal [0x31]) (.look (.lineEnd false)))
        (.literal [0x32]))) := by
    decide +kernel
  obtain ⟨m, hm, -⟩ : ∃ m, compile .typical "(?mx)1$|2 # two\n" ⟨none, none, false⟩ = .ok m ∧ _ :=
    exists_compile_ok rfl rfl hform (by decide) rfl
  obtain ⟨m', hm', -⟩ : ∃ m',
      compile .typical ("^(?:" ++ "(?mx)1$|2 # two\n" ++ ")$") ⟨none, none, true⟩ = .ok m' ∧ _ :=
    exists_compile_ok rfl rfl hform' (by decide) rfl
  exact ⟨m, m', hm, hm', anchored_classifies_alike hm hm' "1"⟩

end Keypad.Matcher
