import Keypad.Proofs.Unplaced
import Keypad.Proofs.Reading
/-!
Reading a text that goes on. What is read of a pattern is read again, up to places, where a
parenthesis and an anchor stand behind the pattern; only a comment at its end can run over them.
Each reader is followed on both texts at once.
-/
section Rel

variable {α β γ δ : Type} {R R' : α → β → Prop} {S : γ → δ → Prop} {x : Option α} {y : Option β}

theorem Option.rel_imp (h : Option.Rel R x y) (himp : ∀ a b, x = some a → R a b → R' a b) :
    Option.Rel R' x y := by
  cases h with
  | none => exact .none
  | some h => exact .some (himp _ _ rfl h)

theorem Option.rel_bind {f : α → Option γ} {g : β → Option δ} (h : Option.Rel R x y)
    (hf : ∀ a b, R a b → Option.Rel S (f a) (g b)) : Option.Rel S (x.bind f) (y.bind g) := by
  cases h with
  | none => exact .none
  | some h => exact hf _ _ h

end Rel

namespace Keypad.Pattern

def Primitive.unplaced : Primitive → Primitive
  | .literal l => .literal l.unplaced
  | .assertion _ a => .assertion .anywhere a
  | .dot _ => .dot .anywhere
  | .short _ kind negated => .short .anywhere kind negated
  | .property _ query negated => .property .anywhere query negated

def closing : List Char := [')', '$']

namespace Cursor

variable {c c' : Cursor} {x : Char} {xs : List Char}

/-- The first cursor stands in a text that goes on with the closing where that of the second ends.
At the end a comment may have run over it. -/
def Prolongs (c' c : Cursor) : Prop := c'.rest = c.rest ++ closing ∨ c.rest = [] ∧ c'.rest = []

theorem rest_of_head? (h : c.head? = some x) : ∃ xs, c.rest = x :: xs := by
  cases hc : c.rest with
  | nil => simp [head?, hc] at h
  | cons y ys =>
    obtain rfl : y = x := by simpa [head?, hc] using h
    exact ⟨ys, rfl⟩

@[simp] theorem atEnd_iff : c.atEnd = true ↔ c.rest = [] := List.isEmpty_iff

@[simp] theorem head?_eq_none_iff : c.head? = none ↔ c.rest = [] := List.head?_eq_none_iff

theorem exists_head? (h : ¬ c.atEnd = true) : ∃ x, c.head? = some x := by
  rw [atEnd_iff, ← head?_eq_none_iff] at h
  exact Option.ne_none_iff_exists'.mp h

theorem length_skipFrom_le (inComment : Bool) (cs : List Char) (n : Nat) :
    (skipFrom inComment cs n).rest.length ≤ cs.length := by
  induction cs generalizing inComment n with
  | nil => exact Nat.le_refl _
  | cons y ys ih =>
    rw [skipFrom]
    split_ifs
    · exact Nat.le_succ_of_le (ih _ _)
    · exact Nat.le_succ_of_le (ih _ _)
    · exact Nat.le_succ_of_le (ih _ _)
    · exact Nat.le_refl _

theorem length_skip_le (verbose : Bool) (c : Cursor) :
    (c.skip verbose).rest.length ≤ c.rest.length := by
  unfold skip
  split
  · exact length_skipFrom_le _ _ _
  · exact Nat.le_refl _

theorem length_bump (h : c.head? = some x) : c.bump.rest.length + 1 = c.rest.length := by
  obtain ⟨xs, hc⟩ := rest_of_head? h
  rw [bump, hc]
  rfl

theorem length_next_lt (verbose : Bool) (h : c.head? = some x) :
    (c.next verbose).rest.length < c.rest.length := by
  have hskip := length_skip_le verbose c.bump
  have hbump := length_bump h
  rw [next]
  omega

namespace Prolongs

theorem cons (h : c'.Prolongs c) (hc : c.rest = x :: xs) : c'.rest = x :: (xs ++ closing) := by
  rcases h with h | ⟨h, -⟩
  · rw [h, hc]
    rfl
  · rw [hc] at h
    cases h

theorem head? (h : c'.Prolongs c) (hc : c.head? = some x) : c'.head? = some x := by
  obtain ⟨xs, hxs⟩ := rest_of_head? hc
  rw [Cursor.head?, h.cons hxs]
  rfl

theorem head?_of_none (h : c'.Prolongs c) (hc : c.head? = none) :
    c'.head? = none ∨ c'.head? = some ')' := by
  rw [head?_eq_none_iff] at hc
  rcases h with h | ⟨-, h⟩
  · rw [hc] at h
    exact Or.inr (congrArg List.head? h)
  · exact Or.inl (congrArg List.head? h)

theorem head?_iff (h : c'.Prolongs c) (hx : x ≠ ')') : c'.head? = some x ↔ c.head? = some x := by
  refine ⟨fun hc' => ?_, h.head?⟩
  cases hc : c.head? with
  | some y =>
    rw [h.head? hc] at hc'
    exact hc'
  | none =>
    rcases h.head?_of_none hc with h | h
    · rw [h] at hc'
      cases hc'
    · rw [h] at hc'
      exact absurd (Option.some.inj hc').symm hx

theorem length_le (h : c'.Prolongs c) : c.rest.length ≤ c'.rest.length := by
  rcases h with h | ⟨h, -⟩
  · simp [h]
  · simp [h]

theorem atEnd (h : c'.Prolongs c) (hc : ¬ c.atEnd = true) : ¬ c'.atEnd = true := by
  rw [atEnd_iff] at hc ⊢
  obtain ⟨x, xs, hxs⟩ := List.exists_cons_of_ne_nil hc
  rw [h.cons hxs]
  exact List.cons_ne_nil _ _

theorem bump (h : c'.Prolongs c) (hc : c.head? = some x) : c'.bump.Prolongs c.bump := by
  obtain ⟨xs, hxs⟩ := rest_of_head? hc
  refine Or.inl ?_
  rw [Cursor.bump, h.cons hxs, Cursor.bump, hxs]

theorem skipFrom (inComment : Bool) (cs : List Char) (n n' : Nat) :
    (Cursor.skipFrom inComment (cs ++ closing) n').Prolongs (Cursor.skipFrom inComment cs n) := by
  induction cs generalizing inComment n n' with
  | nil =>
    cases inComment with
    | true => exact Or.inr ⟨rfl, rfl⟩
    | false => exact Or.inl rfl
  | cons y ys ih =>
    rw [List.cons_append, Cursor.skipFrom, Cursor.skipFrom]
    split_ifs
    · exact ih _ _ _
    · exact ih _ _ _
    · exact ih _ _ _
    · exact Or.inl rfl

theorem skip (verbose : Bool) (h : c'.Prolongs c) :
    (c'.skip verbose).Prolongs (c.skip verbose) := by
  cases verbose with
  | false => exact h
  | true =>
    show (Cursor.skipFrom false c'.rest c'.offset).Prolongs (Cursor.skipFrom false c.rest c.offset)
    rcases h with h | ⟨h, h'⟩
    · rw [h]
      exact skipFrom _ _ _ _
    · rw [h, h']
      exact Or.inr ⟨rfl, rfl⟩

theorem next (verbose : Bool) (h : c'.Prolongs c) (hc : c.head? = some x) :
    (c'.next verbose).Prolongs (c.next verbose) :=
  (h.bump hc).skip verbose

end Prolongs

section Signs

theorem isPrefixOf_append_closing {text : List Char} (htext : ')' ∉ text) (cs : List Char) :
    text.isPrefixOf (cs ++ closing) = text.isPrefixOf cs := by
  induction text generalizing cs with
  | nil => rfl
  | cons x text ih =>
    obtain ⟨hx, htext⟩ := not_or.mp (mt List.mem_cons.mpr htext)
    cases cs with
    | nil => simp [closing, List.isPrefixOf, Ne.symm hx]
    | cons c cs => rw [List.cons_append, List.isPrefixOf, List.isPrefixOf, ih htext]

theorem Prolongs.take? (h : c'.Prolongs c) {text : String} (htext : ')' ∉ text.toList) :
    Option.Rel (fun d d' => d'.Prolongs d ∧ d.rest.length ≤ c.rest.length) (c.take? text)
      (c'.take? text) := by
  unfold Cursor.take?
  rcases h with h | ⟨h, h'⟩
  · rw [h, isPrefixOf_append_closing htext]
    split_ifs with hprefix
    · have hle : text.length ≤ c.rest.length := by
        rw [← String.length_toList]
        exact (List.isPrefixOf_iff_prefix.mp hprefix).length_le
      exact .some ⟨Or.inl (List.drop_append_of_le_length hle), by simp⟩
    · exact .none
  · rw [h, h']
    split_ifs
    · exact .some ⟨Or.inr ⟨List.drop_nil, List.drop_nil⟩, by simp⟩
    · exact .none

end Signs

end Cursor

namespace Parser

section Echoes

variable {α β γ δ : Type} {R : α → β → Prop} {S : γ → δ → Prop}

/-- Where the first reader succeeds the second does too, with a result that is related to that of
the first. -/
def Echoes (R : α → β → Prop) (x : Except SyntaxError α) (y : Except SyntaxError β) : Prop :=
  ∀ a, x = .ok a → ∃ b, y = .ok b ∧ R a b

theorem Echoes.ok {a : α} {b : β} (h : R a b) : Echoes R (.ok a) (.ok b) := by
  rintro _ ⟨⟩
  exact ⟨b, rfl, h⟩

theorem Echoes.error {e : SyntaxError} {y : Except SyntaxError β} : Echoes R (.error e) y := nofun

theorem Echoes.bind {x : Except SyntaxError α} {y : Except SyntaxError β}
    {f : α → Except SyntaxError γ} {g : β → Except SyntaxError δ} (h : Echoes R x y)
    (hf : ∀ a b, x = .ok a → R a b → Echoes S (f a) (g b)) :
    Echoes S (x >>= f) (y >>= g) := by
  intro d hd
  obtain ⟨a, hx, hfa⟩ := Except.bind_eq_ok.mp hd
  obtain ⟨b, hy, hR⟩ := h a hx
  obtain ⟨d', hgb, hS⟩ := hf a b hx hR d hfa
  exact ⟨d', Except.bind_eq_ok.mpr ⟨b, hy, hgb⟩, hS⟩

theorem Echoes.ite {p q : Prop} [Decidable p] [Decidable q] {x x' : Except SyntaxError α}
    {y y' : Except SyntaxError β} (hiff : q ↔ p) (hpos : p → Echoes R x y)
    (hneg : ¬ p → Echoes R x' y') :
    Echoes R (if p then x else x') (if q then y else y') := by
  by_cases hp : p
  · rw [if_pos hp, if_pos (hiff.mpr hp)]
    exact hpos hp
  · rw [if_neg hp, if_neg (mt hiff.mp hp)]
    exact hneg hp

theorem Echoes.unless_atEnd {c c' : Cursor} (h : c'.Prolongs c) {e e' : SyntaxError}
    {x : Except SyntaxError α} {y : Except SyntaxError β}
    (hmore : ∀ ch, c.head? = some ch → Echoes R x y) :
    Echoes R (if c.atEnd then .error e else x) (if c'.atEnd then .error e' else y) := by
  by_cases hend : c.atEnd = true
  · rw [if_pos hend]
    exact .error
  · obtain ⟨ch, hch⟩ := Cursor.exists_head? hend
    rw [if_neg hend, if_neg (h.atEnd hend)]
    exact hmore ch hch

end Echoes

section ReadsOn

variable {α β γ δ : Type} {u : α → β} {w : γ → δ} {m n : Nat}

/-- What is read from the shorter text is read from the longer one too, as far as `u` sees, and at
most `n` characters are left. -/
def ReadsOn (n : Nat) (u : α → β) :
    Except SyntaxError (α × Cursor) → Except SyntaxError (α × Cursor) → Prop :=
  Echoes fun p p' => u p'.1 = u p.1 ∧ p'.2.Prolongs p.2 ∧ p.2.rest.length ≤ n

namespace ReadsOn

variable {x y : Except SyntaxError (α × Cursor)}

theorem ok {a a' : α} {c c' : Cursor} (hu : u a' = u a) (hlength : c.rest.length ≤ n)
    (h : c'.Prolongs c) :
    ReadsOn n u (.ok (a, c)) (.ok (a', c')) := Echoes.ok ⟨hu, h, hlength⟩

theorem error {e : SyntaxError} : ReadsOn n u (.error e) y := Echoes.error

theorem mono (h : ReadsOn m u x y) (hle : m ≤ n) : ReadsOn n u x y := by
  intro p hp
  obtain ⟨p', hp', hu, hc, hlength⟩ := h p hp
  exact ⟨p', hp', hu, hc, hlength.trans hle⟩

theorem bind {f g : α × Cursor → Except SyntaxError (γ × Cursor)} (h : ReadsOn m u x y)
    (hf : ∀ a a' c c', x = .ok (a, c) → u a' = u a → c'.Prolongs c → c.rest.length ≤ m →
      ReadsOn n w (f (a, c)) (g (a', c'))) : ReadsOn n w (x >>= f) (y >>= g) :=
  Echoes.bind h fun p p' hp hR => hf p.1 p'.1 p.2 p'.2 hp hR.1 hR.2.1 hR.2.2

end ReadsOn

end ReadsOn

section Elements

variable {verbose : Bool} {c c' : Cursor} {start start' fuel fuel' : Nat} {ch : Char}

open Cursor (length_next_lt)

theorem readsOn_hexDigits (k : Nat) (h : c'.Prolongs c) :
    ReadsOn c.rest.length id (hexDigits verbose k c) (hexDigits verbose k c') := by
  induction k generalizing c c' with
  | zero => exact .ok rfl (Nat.le_refl _) h
  | succ k ih =>
    rw [hexDigits, hexDigits]
    cases hc : c.head? with
    | none => exact .error
    | some ch =>
      rw [h.head? hc]
      dsimp only
      split
      · exact .error
      · next d _ =>
        exact (ih (h.next verbose hc)).bind fun ds ds' d₁ d₁' _ hds hd hlength =>
          .ok (congrArg (d :: ·) hds) (hlength.trans_lt (length_next_lt verbose hc)).le hd

theorem readsOn_hexBraced {opening opening' : Nat} (hfuel : fuel ≤ fuel') (h : c'.Prolongs c) :
    ReadsOn c.rest.length id (hexBraced verbose opening fuel c)
      (hexBraced verbose opening' fuel' c') := by
  induction fuel generalizing fuel' c c' with
  | zero => exact .error
  | succ fuel ih =>
    obtain ⟨fuel', rfl⟩ := Nat.exists_eq_add_one_of_ne_zero (Nat.ne_zero_of_lt hfuel)
    rw [hexBraced, hexBraced]
    cases hc : c.head? with
    | none => exact .error
    | some ch =>
      rw [h.head? hc]
      split
      · exact .error
      · exact .ok rfl (Nat.le_refl _) h
      · split
        · exact .error
        · next d _ =>
          exact (ih (Nat.le_of_succ_le_succ hfuel) (h.next verbose hc)).bind
            fun ds ds' d₁ d₁' _ hds hd hlength =>
            .ok (congrArg (d :: ·) hds) (hlength.trans_lt (length_next_lt verbose hc)).le hd

theorem head?_of_hexBraced {opening : Nat} {ds : List Nat} {d : Cursor}
    (h : hexBraced verbose opening fuel c = .ok (ds, d)) : d.head? = some '\x7d' := by
  induction fuel generalizing c ds with
  | zero => cases h
  | succ fuel ih =>
    rw [hexBraced] at h
    split at h
    · cases h
    · next hc =>
      obtain ⟨-, rfl⟩ := Prod.mk.inj (Except.ok.inj h)
      exact hc
    · split at h
      · cases h
      · obtain ⟨⟨ds', d'⟩, hds, h⟩ := Except.bind_eq_ok.mp h
        obtain ⟨-, rfl⟩ := Prod.mk.inj (Except.ok.inj h)
        exact ih hds

theorem readsOn_hex (h : c'.Prolongs c) (hc : c.head? = some ch) :
    ReadsOn c.rest.length Primitive.unplaced (hex verbose start c) (hex verbose start' c') := by
  unfold hex
  rw [h.head? hc, hc]
  extract_lets count d opening first d'
  have hlt : d.rest.length < c.rest.length := length_next_lt verbose hc
  have hnext : d'.Prolongs d := h.next verbose hc
  clear_value d d'
  cases hd : d.head? with
  | none => exact .error
  | some x =>
    rw [hnext.head? hd]
    split
    · exact .error
    · have hlt' := length_next_lt verbose hd
      refine (readsOn_hexBraced (Nat.succ_le_succ hnext.length_le) (hnext.next verbose hd)).bind
        fun ds ds' d₁ d₁' hds hsame hd₁ hlength => ?_
      obtain rfl : ds' = ds := hsame
      have hlt₁ := length_next_lt verbose (head?_of_hexBraced hds)
      dsimp only
      split
      · exact .error
      split
      · exact .error
      · exact .ok rfl (by omega) (hd₁.next verbose (head?_of_hexBraced hds))
    · refine (readsOn_hexDigits count hnext).bind fun ds ds' d₁ d₁' _ hsame hd₁ hlength => ?_
      obtain rfl : ds' = ds := hsame
      dsimp only
      split
      · exact .error
      · exact .ok rfl (by omega) hd₁

theorem nameBraced_prolongs {name : List Char} {d : Cursor} (hlength : c.rest.length < fuel)
    (hfuel : fuel ≤ fuel') (h : c'.Prolongs c) (hname : nameBraced verbose fuel c = (name, d))
    (hend : ¬ d.atEnd = true) :
    d.head? = some '\x7d' ∧ d.rest.length ≤ c.rest.length ∧
      ∃ d', nameBraced verbose fuel' c' = (name, d') ∧ d'.Prolongs d := by
  induction fuel generalizing fuel' c c' name with
  | zero => omega
  | succ fuel ih =>
    obtain ⟨fuel', rfl⟩ := Nat.exists_eq_add_one_of_ne_zero (Nat.ne_zero_of_lt hfuel)
    rw [nameBraced] at hname ⊢
    split at hname
    · next hc =>
      obtain ⟨-, rfl⟩ := Prod.mk.inj hname
      exact absurd (Cursor.atEnd_iff.mpr (Cursor.head?_eq_none_iff.mp hc)) hend
    · next hc =>
      obtain ⟨rfl, rfl⟩ := Prod.mk.inj hname
      rw [h.head? hc]
      exact ⟨hc, Nat.le_refl _, _, rfl, h⟩
    · next ch hbrace hc =>
      obtain ⟨rfl, rfl⟩ := Prod.mk.inj hname
      have hlt := length_next_lt verbose hc
      obtain ⟨hhead, hle, d', hd', hprolongs⟩ :=
        ih (by omega) (Nat.le_of_succ_le_succ hfuel) (h.next verbose hc) rfl
      rw [h.head? hc]
      split
      · next heq => cases heq
      · next heq => exact absurd (Option.some.inj heq) hbrace
      · next heq =>
        obtain rfl := Option.some.inj heq
        rw [hd']
        exact ⟨hhead, by omega, _, rfl, hprolongs⟩

theorem readsOn_property (h : c'.Prolongs c) (hc : c.head? = some ch) :
    ReadsOn c.rest.length Primitive.unplaced (property verbose start c)
      (property verbose start' c') := by
  unfold property
  rw [h.head? hc, hc]
  extract_lets negated d behind d' behind'
  have hlt : d.rest.length < c.rest.length := length_next_lt verbose hc
  have hnext : d'.Prolongs d := h.next verbose hc
  clear_value d d'
  cases hd : d.head? with
  | none => exact .error
  | some x =>
    have hlt' := length_next_lt verbose hd
    rw [hnext.head? hd]
    split
    · exact .error
    · cases hname : nameBraced verbose (d.rest.length + 1) (d.next verbose) with
      | mk name e =>
        dsimp only
        by_cases hend : e.atEnd = true
        · rw [if_pos hend]
          exact .error
        · obtain ⟨hbrace, hle, e', he', hprolongs⟩ := nameBraced_prolongs (by omega)
            (Nat.succ_le_succ hnext.length_le) (hnext.next verbose hd) hname hend
          have hbump := Cursor.length_bump hbrace
          rw [he']
          dsimp only
          rw [if_neg hend, if_neg (hprolongs.atEnd hend)]
          exact .ok rfl (by omega) (hprolongs.bump hbrace)
    · exact .error
    · exact .ok rfl (hlt'.le.trans hlt.le) (hnext.next verbose hd)

def takeNext (kind : Char → Bool) (verbose : Bool) : Nat → Cursor → List Char × Cursor
  | 0, c => ([], c)
  | fuel + 1, c =>
    match c.head? with
    | some ch =>
      if kind ch then
        let (cs, c) := takeNext kind verbose fuel (c.next verbose)
        (ch :: cs, c)
      else ([], c)
    | none => ([], c)

theorem takeNext_prolongs (kind : Char → Bool) (hkind : kind ')' = false) (verbose : Bool)
    (hlength : c.rest.length < fuel) (hlength' : c'.rest.length < fuel') (h : c'.Prolongs c) :
    (takeNext kind verbose fuel' c').1 = (takeNext kind verbose fuel c).1 ∧
      (takeNext kind verbose fuel' c').2.Prolongs (takeNext kind verbose fuel c).2 ∧
      (takeNext kind verbose fuel c).2.rest.length ≤ c.rest.length := by
  induction fuel generalizing fuel' c c' with
  | zero => omega
  | succ fuel ih =>
    obtain ⟨fuel', rfl⟩ := Nat.exists_eq_add_one_of_ne_zero (Nat.ne_zero_of_lt hlength')
    rw [takeNext, takeNext]
    cases hc : c.head? with
    | none =>
      rcases h.head?_of_none hc with hc' | hc'
      · rw [hc']
        exact ⟨rfl, h, Nat.le_refl _⟩
      · rw [hc']
        dsimp only
        rw [if_neg (by simp [hkind])]
        exact ⟨rfl, h, Nat.le_refl _⟩
    | some ch =>
      have hlt := length_next_lt verbose hc
      have hlt' := length_next_lt verbose (h.head? hc)
      rw [h.head? hc]
      dsimp only
      split
      · have hfuel : (c'.next verbose).rest.length < fuel' := by omega
        obtain ⟨hchars, hprolongs, hle⟩ := ih (by omega) hfuel (h.next verbose hc)
        exact ⟨congrArg (ch :: ·) hchars, hprolongs, hle.trans hlt.le⟩
      · exact ⟨rfl, h, Nat.le_refl _⟩

theorem edgeLetters_eq_takeNext (verbose : Bool) (fuel : Nat) (c : Cursor) :
    edgeLetters verbose fuel c = takeNext isEdgeLetter verbose fuel c := by
  induction fuel generalizing c with
  | zero => rfl
  | succ fuel ih =>
    cases hc : c.head? with
    | none => simp only [edgeLetters, takeNext, hc]
    | some ch => simp only [edgeLetters, takeNext, hc, ih]

theorem readsOn_namedEdge? (h : c'.Prolongs c) :
    Echoes (Option.Rel fun p p' => p'.1 = p.1 ∧ p'.2.Prolongs p.2 ∧ p.2.rest.length ≤ c.rest.length)
      (namedEdge? verbose start c) (namedEdge? verbose start' c') := by
  unfold namedEdge?
  refine Echoes.ite (not_congr (h.head?_iff (by decide))) (fun _ => .ok .none) fun hc => ?_
  rw [not_not] at hc
  have hlt := length_next_lt verbose hc
  have hnext := h.next verbose hc
  dsimp only
  cases hd : (c.next verbose).head? with
  | none => exact .error
  | some x =>
    rw [hnext.head? hd]
    dsimp only
    refine Echoes.ite Iff.rfl (fun _ => .ok .none) fun _ => ?_
    have hletters :=
      takeNext_prolongs isEdgeLetter (by decide) verbose (Nat.lt_succ_self _) (Nat.lt_succ_self _)
      hnext
    rw [edgeLetters_eq_takeNext, edgeLetters_eq_takeNext]
    generalize takeNext isEdgeLetter verbose ((c.next verbose).rest.length + 1)
      (c.next verbose) = read
      at hletters ⊢
    generalize takeNext isEdgeLetter verbose ((c'.next verbose).rest.length + 1)
      (c'.next verbose) = read'
      at hletters ⊢
    obtain ⟨name, d⟩ := read
    obtain ⟨name', d'⟩ := read'
    obtain ⟨rfl, hprolongs, hle⟩ : name' = name ∧ d'.Prolongs d ∧ d.rest.length ≤ _ := hletters
    refine Echoes.ite (not_congr (hprolongs.head?_iff (by decide))) (fun _ => .error)
      fun hbrace => ?_
    rw [not_not] at hbrace
    have hbump := Cursor.length_bump hbrace
    dsimp only at hbrace hbump hle ⊢
    split
    case h_5 => exact .error
    all_goals
      refine Echoes.ok (Option.Rel.some ?_)
      exact ⟨rfl, hprolongs.bump hbrace, by dsimp only; omega⟩

theorem readsOn_escape (h : c'.Prolongs c) (hc : c.head? = some ch) :
    ReadsOn c.bump.rest.length Primitive.unplaced (escape verbose c) (escape verbose c') := by
  have hbump := h.bump hc
  unfold escape
  dsimp only
  cases hd : c.bump.head? with
  | none => exact .error
  | some x =>
    have hafter := hbump.bump hd
    have hlength := Cursor.length_bump hd
    have hle : c.bump.bump.rest.length ≤ c.bump.rest.length := by omega
    rw [hbump.head? hd]
    dsimp only
    split
    · exact .error
    split
    · exact readsOn_hex hbump hd
    split
    · exact readsOn_property hbump hd
    split
    · exact .ok rfl hle hafter
    split
    · exact .ok rfl hle hafter
    split
    · exact .ok rfl hle hafter
    split
    · exact .ok rfl hle hafter
    · exact .ok rfl hle hafter
    · refine Echoes.bind (readsOn_namedEdge? hafter) fun found found' _ hfound => ?_
      cases hfound with
      | none => exact ReadsOn.ok rfl hle hafter
      | some hedge =>
        obtain ⟨hkind, hprolongs, hle'⟩ := hedge
        have hsame := congrArg (fun kind => Primitive.assertion .anywhere (.wordEdge kind)) hkind
        exact ReadsOn.ok hsame (hle'.trans hle) hprolongs
    · exact .ok rfl hle hafter
    · exact .ok rfl hle hafter
    · exact .ok rfl hle hafter
    · exact .error

theorem readsOn_primitive (h : c'.Prolongs c) (hc : c.head? = some ch) :
    ReadsOn c.bump.rest.length Primitive.unplaced (primitive verbose c) (primitive verbose c') := by
  have hbump := h.bump hc
  unfold primitive
  rw [h.head? hc, hc]
  split
  · exact .error
  · exact readsOn_escape h hc
  · exact .ok rfl (Nat.le_refl _) hbump
  · exact .ok rfl (Nat.le_refl _) hbump
  · exact .ok rfl (Nat.le_refl _) hbump
  · exact .ok rfl (Nat.le_refl _) hbump

theorem readsOn_classPrimitive (h : c'.Prolongs c) :
    ReadsOn c.rest.length Primitive.unplaced (classPrimitive verbose c)
      (classPrimitive verbose c') := by
  unfold classPrimitive
  cases hc : c.head? with
  | none => exact .error
  | some ch =>
    have hlength := Cursor.length_bump hc
    rw [h.head? hc]
    split
    · exact (readsOn_escape h hc).mono (by omega)
    · exact .ok rfl (by omega) (h.bump hc)
    · exact .error

end Elements

section Classes

variable {verbose : Bool} {c c' : Cursor} {opening opening' fuel fuel' : Nat} {ch : Char}
  {m m' : Members}

open Cursor (length_next_lt)

theorem toClassItem_unplaced {p p' : Primitive} (h : p'.unplaced = p.unplaced) :
    Echoes (fun e e' : ClassExpr => e'.unplaced = e.unplaced) p.toClassItem p'.toClassItem := by
  cases p <;> cases p' <;> simp only [Primitive.unplaced, reduceCtorEq] at h <;>
    first | exact .error | exact .ok (by simp_all [ClassExpr.unplaced])

theorem toRangeEnd_unplaced {p p' : Primitive} (h : p'.unplaced = p.unplaced) :
    Echoes (fun l l' : Literal => l'.unplaced = l.unplaced) p.toRangeEnd p'.toRangeEnd := by
  cases p <;> cases p' <;> simp only [Primitive.unplaced, reduceCtorEq] at h <;>
    first | exact .error | exact .ok (Primitive.literal.inj h)

def Members.unplaced (m : Members) : List ClassExpr := m.items.map ClassExpr.unplaced

theorem Members.unplaced_push {e e' : ClassExpr} (h : m'.unplaced = m.unplaced)
    (he : e'.unplaced = e.unplaced) : (m'.push e').unplaced = (m.push e).unplaced := by
  rw [Members.unplaced, push, List.map_cons, he]
  exact congrArg (e.unplaced :: ·) h

theorem unplaced_plain (span span' : Span) (ch : Char) :
    (ClassExpr.literal ⟨span', ch, false⟩).unplaced =
      (ClassExpr.literal ⟨span, ch, false⟩).unplaced := rfl

theorem Members.unplaced_toExpr (m : Members) : m.toExpr.unplaced =
    match m.unplaced with
    | [] => .empty .anywhere
    | [e] => e
    | es => .union .anywhere es.reverse := by
  unfold toExpr unplaced
  split
  · next h => rw [h]; rfl
  · next e h => rw [h]; rfl
  · next e rest hmany h =>
    rw [h]
    cases rest with
    | nil => exact absurd rfl hmany
    | cons e' rest => simp [ClassExpr.unplaced, ClassExpr.allUnplaced_eq]

def Pending.unplaced (p : Pending) : Option (SetOperation × ClassExpr) :=
  p.map fun side => (side.1, side.2.unplaced)

theorem Pending.unplaced_close (p : Pending) (e : ClassExpr) : (p.close e).unplaced =
    match p.unplaced with
    | some (op, lhs) => .operation .anywhere op lhs e.unplaced
    | none => e.unplaced := by
  cases p <;> rfl

theorem unplaced_close_toExpr {p p' : Pending} (hp : p'.unplaced = p.unplaced)
    (hm : m'.unplaced = m.unplaced) :
    (p'.close m'.toExpr).unplaced = (p.close m.toExpr).unplaced := by
  rw [Pending.unplaced_close, Pending.unplaced_close, hp, Members.unplaced_toExpr,
    Members.unplaced_toExpr, hm]

theorem peekFrom_append_closing {inComment : Bool} (cs : List Char) :
    Cursor.peekFrom inComment (cs ++ closing) = (Cursor.peekFrom inComment cs).or (some ')') := by
  induction cs generalizing inComment with
  | nil => cases inComment <;> rfl
  | cons c cs ih =>
    rw [List.cons_append, Cursor.peekFrom, Cursor.peekFrom]
    split_ifs
    · exact ih
    · exact ih
    · rfl

theorem head?_of_peekFrom {inComment : Bool} {cs : List Char}
    (h : Cursor.peekFrom inComment cs = none) :
    ∀ c ∈ cs.head?, Text.isBlank c = true ∨ c = '#' := by
  cases cs with
  | nil => nofun
  | cons c cs =>
    rintro _ ⟨⟩
    rw [Cursor.peekFrom] at h
    split_ifs at h with hblank hsign
    · exact Or.inl hblank
    · exact Or.inr (by simpa using (Bool.and_eq_true_iff.mp hsign).2)

theorem peek_iff (h : c'.Prolongs c) (hc : c.head? = some ch) {x : Char}
    (hblank : Text.isBlank x = false) (hx : x ≠ ')') (hsign : x ≠ '#') :
    c'.peek verbose = some x ↔ c.peek verbose = some x := by
  obtain ⟨cs, hcs⟩ := Cursor.rest_of_head? hc
  have hhead : (cs ++ closing).head? = some x ↔ cs.head? = some x := by
    cases cs with
    | nil => simp [closing, hx.symm]
    | cons d cs => rfl
  unfold Cursor.peek
  rw [h.cons hcs, hcs]
  cases verbose with
  | false => exact hhead
  | true =>
    show ((Cursor.peekFrom false (cs ++ closing)).orElse fun _ => (cs ++ closing).head?) = some x ↔
      ((Cursor.peekFrom false cs).orElse fun _ => cs.head?) = some x
    rw [peekFrom_append_closing]
    cases hpeek : Cursor.peekFrom false cs with
    | some y => rfl
    | none =>
      refine iff_of_false (fun heq => hx (Option.some.inj heq).symm) fun heq => ?_
      -- only blanks and the sign of a comment are passed over
      rcases head?_of_peekFrom hpeek x heq with hx | hx
      · rw [hblank] at hx
        cases hx
      · exact hsign hx

theorem readsOn_classRange (h : c'.Prolongs c) :
    ReadsOn c.rest.length ClassExpr.unplaced (classRange verbose opening c)
      (classRange verbose opening' c') := by
  unfold classRange
  refine (readsOn_classPrimitive h).bind fun first first' d d' _ hfirst hd hlength => ?_
  have hskip := hd.skip verbose
  have hle := Cursor.length_skip_le verbose d
  dsimp only
  generalize d.skip verbose = d at hskip hle ⊢
  generalize d'.skip verbose = d' at hskip ⊢
  refine Echoes.unless_atEnd hskip fun x hhead => ?_
  have hlone : (d'.head? ≠ some '-' ∨ d'.peek verbose = some ']' ∨ d'.peek verbose = some '-') ↔
      (d.head? ≠ some '-' ∨ d.peek verbose = some ']' ∨ d.peek verbose = some '-') :=
    or_congr (not_congr (hskip.head?_iff (by decide)))
      (or_congr (peek_iff hskip hhead (by decide) (by decide) (by decide))
        (peek_iff hskip hhead (by decide) (by decide) (by decide)))
  have hlt := length_next_lt verbose hhead
  have hnext := hskip.next verbose hhead
  refine Echoes.ite hlone (fun _ => ?_) fun _ => ?_
  · exact Echoes.bind (toClassItem_unplaced hfirst) fun e e' _ he => ReadsOn.ok he (by omega) hskip
  refine Echoes.unless_atEnd hnext fun _ _ => ?_
  refine (readsOn_classPrimitive hnext).bind fun second second' d₂ d₂' _ hsecond hd₂ hlength₂ => ?_
  refine Echoes.bind (toRangeEnd_unplaced hfirst) fun lo lo' _ hlo => ?_
  refine Echoes.bind (toRangeEnd_unplaced hsecond) fun hi hi' _ hhi => ?_
  have hrange : (ClassExpr.range ⟨lo'.span.start, hi'.span.stop⟩ lo' hi').unplaced =
      (ClassExpr.range ⟨lo.span.start, hi.span.stop⟩ lo hi).unplaced := by
    rw [ClassExpr.unplaced, ClassExpr.unplaced, hlo, hhi]
  dsimp only
  rw [(Literal.mk.inj hlo).2.1, (Literal.mk.inj hhi).2.1]
  split
  · exact ReadsOn.ok hrange (by omega) hd₂
  · exact Echoes.error

theorem take?_behindName {n n' : Nat} (h : c'.Prolongs c) :
    let name := c.rest.takeWhile (· != ':')
    let name' := c'.rest.takeWhile (· != ':')
    Option.Rel (fun d d' => name' = name ∧ d'.Prolongs d ∧ d.rest.length ≤ c.rest.length)
      (Cursor.take? ":]" ⟨c.rest.drop name.length, n⟩)
        (Cursor.take? ":]" ⟨c'.rest.drop name'.length, n'⟩) := by
  intro name name'
  have hprefix : name <+: c.rest := List.takeWhile_prefix _
  obtain ⟨hbehind, hname⟩ :
      Cursor.Prolongs ⟨c'.rest.drop name'.length, n'⟩ ⟨c.rest.drop name.length, n⟩ ∧
      (name' = name ∨ c.rest.drop name.length = []) := by
    rcases h with h | ⟨h, h'⟩
    · have hsplit : name' = if name.length = c.rest.length then c.rest ++ closing else name := by
        show c'.rest.takeWhile _ = _
        rw [h, List.takeWhile_append]
        rfl
      by_cases hlength : name.length = c.rest.length
      · rw [if_pos hlength] at hsplit
        have hnil : c.rest.drop name.length = [] := List.drop_of_length_le hlength.ge
        exact ⟨Or.inr ⟨hnil, by rw [hsplit, h]; exact List.drop_length⟩, Or.inr hnil⟩
      · rw [if_neg hlength] at hsplit
        rw [hsplit, h]
        exact ⟨Or.inl (List.drop_append_of_le_length hprefix.length_le), Or.inl rfl⟩
    · have hnil : name = [] := by simp [name, h]
      have hnil' : name' = [] := by simp [name', h']
      exact ⟨Or.inr ⟨by simp [h], by simp [h']⟩, Or.inl (hnil'.trans hnil.symm)⟩
  refine Option.rel_imp (hbehind.take? (by decide)) fun d d' hd hR =>
    ⟨?_, hR.1, hR.2.trans (by simp)⟩
  refine hname.resolve_right fun hnil => ?_
  rw [hnil] at hd
  cases hd

theorem readsOn_namedClass? (h : c'.Prolongs c) :
    Option.Rel (fun p p' => p'.1.unplaced = p.1.unplaced ∧ p'.2.Prolongs p.2 ∧
      p.2.rest.length ≤ c.rest.length)
      (namedClass? c) (namedClass? c') := by
  unfold namedClass?
  refine Option.rel_bind (h.take? (by decide)) fun i i' hi => ?_
  have hsign : Option.Rel _ (i.take? "^") (i'.take? "^") := hi.1.take? (by decide)
  generalize i.take? "^" = sign at hsign ⊢
  generalize i'.take? "^" = sign' at hsign ⊢
  cases hsign with
  | none =>
    refine Option.rel_bind (take?_behindName hi.1) fun stop stop' hstop => ?_
    rw [hstop.1]
    cases NamedClass.ofName? (String.ofList (i.rest.takeWhile (· != ':'))) with
    | none => exact .none
    | some kind => exact .some ⟨rfl, hstop.2.1, hstop.2.2.trans hi.2⟩
  | @some j j' hj =>
    refine Option.rel_bind (take?_behindName hj.1) fun stop stop' hstop => ?_
    rw [hstop.1]
    cases NamedClass.ofName? (String.ofList (j.rest.takeWhile (· != ':'))) with
    | none => exact .none
    | some kind => exact .some ⟨rfl, hstop.2.1, hstop.2.2.trans (hj.2.trans hi.2)⟩

theorem readsOn_leadingDashes (hm : m'.unplaced = m.unplaced) (hlength : c.rest.length < fuel)
    (hlength' : c'.rest.length < fuel') (h : c'.Prolongs c) :
    ReadsOn c.rest.length Members.unplaced (leadingDashes verbose opening fuel m c)
      (leadingDashes verbose opening' fuel' m' c') := by
  induction fuel generalizing fuel' c c' m m' with
  | zero => omega
  | succ fuel ih =>
    obtain ⟨fuel', rfl⟩ := Nat.exists_eq_add_one_of_ne_zero (Nat.ne_zero_of_lt hlength')
    rw [leadingDashes, leadingDashes]
    refine Echoes.ite (h.head?_iff (by decide)) (fun hc => ?_) fun _ =>
      ReadsOn.ok hm (Nat.le_refl _) h
    have hlt := length_next_lt verbose hc
    have hlt' := length_next_lt verbose (h.head? hc)
    have hnext := h.next verbose hc
    refine Echoes.unless_atEnd hnext fun _ _ => ?_
    have hfuel : (c.next verbose).rest.length < fuel := by omega
    have hfuel' : (c'.next verbose).rest.length < fuel' := by omega
    exact (ih (Members.unplaced_push hm (unplaced_plain _ _ _)) hfuel hfuel' hnext).mono hlt.le

theorem Members.isEmpty_unplaced (h : m'.unplaced = m.unplaced) :
    m'.items.isEmpty = m.items.isEmpty := by
  have hmap : (m'.items.map ClassExpr.unplaced).isEmpty =
      (m.items.map ClassExpr.unplaced).isEmpty :=
    congrArg List.isEmpty h
  rwa [List.isEmpty_map, List.isEmpty_map] at hmap

def OpensOn (n : Nat) (p p' : Bool × Members × Cursor) : Prop :=
  p'.1 = p.1 ∧ p'.2.1.unplaced = p.2.1.unplaced ∧ p'.2.2.Prolongs p.2.2 ∧ p.2.2.rest.length < n

theorem readsOn_classOpening (h : c'.Prolongs c) (hc : c.head? = some ch) :
    Echoes (OpensOn c.rest.length) (classOpening verbose c) (classOpening verbose c') := by
  have hlt := length_next_lt verbose hc
  have hnext := h.next verbose hc
  unfold classOpening
  dsimp only
  generalize c.next verbose = d at hlt hnext ⊢
  generalize c'.next verbose = d' at hnext ⊢
  refine Echoes.unless_atEnd hnext fun _ _ => ?_
  have hnegated : decide (d'.head? = some '^') = decide (d.head? = some '^') :=
    decide_eq_decide.mpr (hnext.head?_iff (by decide))
  obtain ⟨e, e', he, he', hprolongs, hle⟩ : ∃ e e',
      (if d.head? = some '^' then d.next verbose else d) = e ∧
      (if d'.head? = some '^' then d'.next verbose else d') = e' ∧ e'.Prolongs e ∧
      e.rest.length ≤ d.rest.length := by
    by_cases hd : d.head? = some '^'
    · rw [if_pos hd, if_pos (hnext.head? hd)]
      exact ⟨_, _, rfl, rfl, hnext.next verbose hd, (length_next_lt verbose hd).le⟩
    · rw [if_neg hd, if_neg (mt (hnext.head?_iff (by decide)).mp hd)]
      exact ⟨_, _, rfl, rfl, hnext, Nat.le_refl _⟩
  simp only [hnegated, he, he']
  refine Echoes.unless_atEnd hprolongs fun _ _ => ?_
  refine Echoes.bind (readsOn_leadingDashes rfl (Nat.lt_succ_self _)
    (Nat.lt_succ_self _) hprolongs) ?_
  rintro ⟨m, k⟩ ⟨m', k'⟩ - ⟨hm, hk, hlength⟩
  dsimp only at hm hk hlength ⊢
  have hlone : (m'.items.isEmpty = true ∧ k'.head? = some ']') ↔
      (m.items.isEmpty = true ∧ k.head? = some ']') :=
    and_congr (by rw [Members.isEmpty_unplaced hm]) (hk.head?_iff (by decide))
  refine Echoes.ite hlone (fun hbracket => ?_) fun _ => .ok ⟨rfl, hm, hk, by dsimp only; omega⟩
  have hlt' := length_next_lt verbose hbracket.2
  have hnext' := hk.next verbose hbracket.2
  refine Echoes.unless_atEnd hnext' fun _ _ => ?_
  exact .ok ⟨rfl, Members.unplaced_push hm (unplaced_plain _ _ _), hnext', by dsimp only; omega⟩

theorem readsOn_setOperation? (h : c'.Prolongs c) :
    Option.Rel (fun p p' => p'.1 = p.1 ∧ p'.2.Prolongs p.2 ∧ p.2.rest.length ≤ c.rest.length)
      (setOperation? c) (setOperation? c') := by
  have hand : Option.Rel _ (c.take? "&&") (c'.take? "&&") := h.take? (by decide)
  have hminus : Option.Rel _ (c.take? "--") (c'.take? "--") := h.take? (by decide)
  have htilde : Option.Rel _ (c.take? "~~") (c'.take? "~~") := h.take? (by decide)
  unfold setOperation?
  generalize c.take? "&&" = andSign, c'.take? "&&" = andSign' at hand ⊢
  generalize c.take? "--" = minusSign, c'.take? "--" = minusSign' at hminus ⊢
  generalize c.take? "~~" = tildeSign, c'.take? "~~" = tildeSign' at htilde ⊢
  cases hand with
  | some h => exact .some ⟨rfl, h⟩
  | none =>
    cases hminus with
    | some h => exact .some ⟨rfl, h⟩
    | none =>
      cases htilde with
      | some h => exact .some ⟨rfl, h⟩
      | none => exact .none

def ClosesOn (n : Nat) (p p' : Span × Bool × ClassExpr × Cursor) : Prop :=
  p'.2.1 = p.2.1 ∧ p'.2.2.1.unplaced = p.2.2.1.unplaced ∧ p'.2.2.2.Prolongs p.2.2.2 ∧
    p.2.2.2.rest.length < n

theorem readsOn_class (verbose : Bool) (fuel : Nat) :
    (∀ {fuel' c c' ch}, fuel ≤ fuel' → c'.Prolongs c → c.head? = some ch →
      Echoes (ClosesOn c.rest.length) (bracketed verbose fuel c) (bracketed verbose fuel' c')) ∧
    ∀ {fuel' opening opening'} {p p' : Pending} {m m' : Members} {c c' : Cursor}, fuel ≤ fuel' →
      p'.unplaced = p.unplaced → m'.unplaced = m.unplaced → c'.Prolongs c →
      ReadsOn c.rest.length ClassExpr.unplaced (classBody verbose opening fuel p m c)
        (classBody verbose opening' fuel' p' m' c') := by
  induction fuel with
  | zero =>
    constructor
    · intro fuel' c c' ch _ _ _
      rw [bracketed]
      exact .error
    · intro fuel' opening opening' p p' m m' c c' _ _ _ _
      rw [classBody]
      exact .error
  | succ fuel ih =>
    obtain ⟨ihClass, ihBody⟩ := ih
    constructor
    · intro fuel' c c' ch hfuel h hc
      obtain ⟨fuel', rfl⟩ := Nat.exists_eq_add_one_of_ne_zero (Nat.ne_zero_of_lt hfuel)
      rw [bracketed, bracketed]
      refine (readsOn_classOpening h hc).bind ?_
      rintro ⟨negated, m, d⟩ ⟨negated', m', d'⟩ - ⟨hnegated, hm, hd, hlt⟩
      refine Echoes.bind (ihBody (Nat.le_of_succ_le_succ hfuel) rfl hm hd) ?_
      rintro ⟨body, e⟩ ⟨body', e'⟩ - ⟨hbody, he, hle⟩
      exact .ok ⟨hnegated, hbody, he, hle.trans_lt hlt⟩
    · intro fuel' opening opening' p p' m m' c c' hfuel hp hm h
      obtain ⟨fuel', rfl⟩ := Nat.exists_eq_add_one_of_ne_zero (Nat.ne_zero_of_lt hfuel)
      have hle := Cursor.length_skip_le verbose c
      have hskip := h.skip verbose
      have hfuel := Nat.le_of_succ_le_succ hfuel
      rw [classBody, classBody]
      dsimp only
      generalize c.skip verbose = d, c'.skip verbose = d' at hle hskip ⊢
      cases hd : d.head? with
      | none => exact .error
      | some x =>
        have hbump := Cursor.length_bump hd
        rw [hskip.head? hd]
        split
        · exact .error
        · have hrel := readsOn_namedClass? hskip
          generalize namedClass? d = named, namedClass? d' = named' at hrel ⊢
          cases hrel with
          | some hnamed =>
            exact (ihBody hfuel hp (Members.unplaced_push hm hnamed.1) hnamed.2.1).mono
              (hnamed.2.2.trans hle)
          | none =>
            refine Echoes.bind (ihClass hfuel hskip hd) ?_
            rintro ⟨span, negated, body, e⟩ ⟨span', negated', body', e'⟩ -
              ⟨hnegated, hbody, he, hlt⟩
            have hitem : (ClassExpr.bracketed span' negated' body').unplaced =
                (ClassExpr.bracketed span negated body).unplaced := by
              dsimp only at hnegated hbody
              rw [ClassExpr.unplaced, ClassExpr.unplaced, hnegated, hbody]
            exact (ihBody hfuel hp (Members.unplaced_push hm hitem) he).mono (hlt.le.trans hle)
        · exact .ok (unplaced_close_toExpr hp hm) (by omega) (hskip.bump hd)
        · have hrel := readsOn_setOperation? hskip
          generalize setOperation? d = sign, setOperation? d' = sign' at hrel ⊢
          cases hrel with
          | @some sign sign' hsign =>
            obtain ⟨op, e⟩ := sign
            obtain ⟨op', e'⟩ := sign'
            obtain ⟨rfl, he, hlt⟩ : op' = op ∧ e'.Prolongs e ∧ e.rest.length ≤ d.rest.length :=
              hsign
            have hpending : Pending.unplaced (some (op', p'.close m'.toExpr)) =
                Pending.unplaced (some (op', p.close m.toExpr)) :=
              congrArg (fun side => some (op', side)) (unplaced_close_toExpr hp hm)
            have hempty : (Members.emptyAt e').unplaced = (Members.emptyAt e).unplaced := rfl
            exact (ihBody hfuel hpending hempty he).mono (hlt.trans hle)
          | none =>
            refine Echoes.bind (readsOn_classRange hskip) ?_
            rintro ⟨item, e⟩ ⟨item', e'⟩ - ⟨hitem, he, hlt⟩
            exact (ihBody hfuel hp (Members.unplaced_push hm hitem) he).mono (hlt.trans hle)

end Classes

end Parser

end Keypad.Pattern
