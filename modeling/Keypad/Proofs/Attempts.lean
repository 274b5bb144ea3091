import Keypad.Pattern.Attempt
import Keypad.Proofs.Normal
/-!
What an attempt does, whatever comes of the places behind it: something comes of it exactly where
something comes of a place behind one of its words, and all that is noted on the way goes on top of
what comes of that place. Where at most one word is possible and nothing is noted there is only one
attempt.
-/
namespace Keypad.Pattern

open Keypad.Charset

def Between.Fixed (R : Between) : Prop :=
  ∀ ⦃before u v u' v' : List UInt8⦄, u ++ v = u' ++ v' → R before u v → R before u' v' → u = u'

@[simp] theorem isSome_prefer {τ : Type} {greedy : Bool} {into past : Option τ} :
    (prefer greedy into past).isSome = true ↔ into.isSome = true ∨ past.isSome = true := by
  cases greedy <;> simp [prefer, Option.isSome_or, or_comm]

namespace Attempt

variable {τ σ : Type} {A B : Attempt τ} {R S : Between} {greedy : Bool}

/-- Something comes of an attempt where something comes of a place behind a word of the relation,
and no other place counts. -/
structure Follows (A : Attempt τ) (R : Between) : Prop where
  isSome_iff : ∀ {before after : List UInt8} {onward : Onward τ},
    (A before after onward).isSome = true ↔
    ∃ u v, after = u ++ v ∧ R before u v ∧ (onward (before ++ u) v).isSome = true
  congr : ∀ {before after : List UInt8} {onward onward' : Onward τ},
    (∀ u v, after = u ++ v → R before u v → onward (before ++ u) v = onward' (before ++ u) v) →
      A before after onward = A before after onward'

namespace Follows

theorem stay : (stay : Attempt τ).Follows Between.nothing where
  isSome_iff := by
    intro before after onward
    constructor
    · intro h
      exact ⟨[], after, rfl, rfl, by simpa [Attempt.stay] using h⟩
    · rintro ⟨_, v, rfl, rfl, h⟩
      simpa [Attempt.stay] using h
  congr := by
    intro before after onward onward' h
    simpa [Attempt.stay] using h [] after rfl rfl

theorem never : (never : Attempt τ).Follows fun _ _ _ => False where
  isSome_iff := by simp [Attempt.never]
  congr := fun _ => rfl

theorem check (l : Look) : (check l : Attempt τ).Follows (Form.look l).Matches where
  isSome_iff := by
    intro before after onward
    rw [Attempt.check]
    constructor
    · intro h
      split at h
      · next hl => exact ⟨[], after, rfl, ⟨rfl, hl⟩, by simpa using h⟩
      · cases h
    · rintro ⟨_, v, rfl, ⟨rfl, hl⟩, h⟩
      rw [List.nil_append, if_pos hl]
      simpa using h
  congr := by
    intro before after onward onward' h
    rw [Attempt.check, Attempt.check]
    split
    · next hl => simpa using h [] after rfl ⟨rfl, hl⟩
    · rfl

theorem word (bs : List UInt8) : (word bs : Attempt τ).Follows (Form.literal bs).Matches where
  isSome_iff := by
    intro before after onward
    rw [Attempt.word]
    constructor
    · intro h
      split at h
      · next hbs =>
        obtain ⟨v, rfl⟩ := hbs
        exact ⟨bs, v, rfl, rfl, by simpa using h⟩
      · cases h
    · rintro ⟨_, v, rfl, rfl, h⟩
      rw [if_pos (List.prefix_append _ _), List.drop_left]
      exact h
  congr := by
    intro before after onward onward' h
    rw [Attempt.word, Attempt.word]
    split
    · next hbs =>
      obtain ⟨v, rfl⟩ := hbs
      rw [List.drop_left]
      exact h bs v rfl rfl
    · rfl

theorem byteOf (s : Intervals) : (byteOf s : Attempt τ).Follows (spells .byte s) where
  isSome_iff := by
    intro before after onward
    unfold Attempt.byteOf
    constructor
    · intro h
      split at h
      · next b rest =>
        split at h
        · next hb => exact ⟨[b], rest, rfl, ⟨b, hb, rfl⟩, h⟩
        · cases h
      · cases h
    · rintro ⟨_, v, rfl, ⟨b, hb, rfl⟩, h⟩
      rw [List.singleton_append]
      dsimp only
      rw [if_pos hb]
      exact h
  congr := by
    intro before after onward onward' h
    unfold Attempt.byteOf
    split
    · next b rest =>
      split
      · next hb => exact h [b] rest rfl ⟨b, hb, rfl⟩
      · rfl
    · rfl

theorem decode_encodeChar (c : Char) (v : List UInt8) :
    (Text.Utf8.encodeChar c ++ v).toByteArray.utf8DecodeChar? 0 = some c := by
  rw [List.toByteArray_append]
  exact ByteArray.utf8DecodeChar?_utf8EncodeChar_append

theorem charOf (s : Intervals) : (charOf s : Attempt τ).Follows (spells .scalar s) where
  isSome_iff := by
    intro before after onward
    rw [Attempt.charOf]
    constructor
    · intro h
      split at h
      · next c hc =>
        split at h
        · next hs =>
          obtain ⟨u, v, hafter, hu, h⟩ := (word _).isSome_iff.mp h
          exact ⟨u, v, hafter, ⟨c, hs, hu⟩, h⟩
        · cases h
      · cases h
    · rintro ⟨_, v, rfl, ⟨c, hs, rfl⟩, h⟩
      rw [decode_encodeChar]
      dsimp only
      rw [if_pos hs]
      exact (word _).isSome_iff.mpr ⟨_, v, rfl, rfl, h⟩
  congr := by
    intro before after onward onward' h
    rw [Attempt.charOf, Attempt.charOf]
    split
    · next c hc =>
      split
      · next hs => exact (word _).congr fun u v hafter hu => h u v hafter ⟨c, hs, hu⟩
      · rfl
    · rfl

theorem seq (hA : A.Follows R) (hB : B.Follows S) : (A.seq B).Follows (R.append S) where
  isSome_iff := by
    intro before after onward
    constructor
    · intro h
      obtain ⟨u, _, rfl, hu, h⟩ := hA.isSome_iff.mp h
      obtain ⟨v, w, rfl, hv, h⟩ := hB.isSome_iff.mp h
      exact ⟨u ++ v, w, by simp, ⟨u, v, rfl, hu, hv⟩, by simpa using h⟩
    · rintro ⟨_, w, rfl, ⟨u, v, rfl, hu, hv⟩, h⟩
      refine hA.isSome_iff.mpr ⟨u, v ++ w, by simp, hu, ?_⟩
      exact hB.isSome_iff.mpr ⟨v, w, rfl, hv, by simpa using h⟩
  congr := by
    intro before after onward onward' h
    refine hA.congr fun u rest hafter hu => hB.congr fun v w hrest hv => ?_
    subst hrest
    simpa using h (u ++ v) w (by simp [hafter]) ⟨u, v, rfl, hu, hv⟩

theorem either (hA : A.Follows R) (hB : B.Follows S) : (A.either B).Follows (R.either S) where
  isSome_iff := by
    intro before after onward
    rw [Attempt.either, Option.isSome_or, Bool.or_eq_true, hA.isSome_iff, hB.isSome_iff]
    simp only [Between.either, or_and_right, and_or_left, exists_or]
  congr := by
    intro before after onward onward' h
    have hleft : A before after onward = A before after onward' :=
      hA.congr fun u v hafter hu => h u v hafter (Or.inl hu)
    have hright : B before after onward = B before after onward' :=
      hB.congr fun u v hafter hu => h u v hafter (Or.inr hu)
    rw [Attempt.either, Attempt.either, hleft, hright]

theorem of_eq (hA : A.Follows R) (hRS : R = S) : A.Follows S := hRS ▸ hA

theorem exactly (hA : A.Follows R) (n : Nat) : (A.exactly n).Follows (R.power n) := by
  induction n with
  | zero => exact stay
  | succ n ih => exact hA.seq ih

theorem optional (hA : A.Follows R) (greedy : Bool) :
    Follows (fun before after (onward : Onward τ) =>
    prefer greedy (A before after onward) (onward before after)) (Between.nothing.either R) where
  isSome_iff := by
    intro before after onward
    rw [isSome_prefer, or_comm]
    have h : (((Attempt.stay : Attempt τ).either A) before after onward).isSome = true ↔ _ :=
      (stay.either hA).isSome_iff
    rwa [Attempt.either, Option.isSome_or, Bool.or_eq_true] at h
  congr := by
    intro before after onward onward' h
    have hround : A before after onward = A before after onward' :=
      hA.congr fun u v hafter hu => h u v hafter (Or.inr hu)
    have hgo : onward before after = onward' before after := by
      simpa using h [] after rfl (Or.inl rfl)
    rw [hround, hgo]

theorem upTo (hA : A.Follows R) (greedy : Bool) (n : Nat) :
    (A.upTo greedy n).Follows (R.times 0 (some n)) := by
  induction n with
  | zero =>
    refine stay.of_eq (Between.ext fun before word after => ?_)
    rw [Between.times_exact]
    rfl
  | succ n ih =>
    exact ((hA.seq ih).optional greedy).of_eq
      (Between.ext fun before word after => (Between.times_zero (some n)).symm)

section Many

variable {before after : List UInt8} {onward onward' : Onward τ}

theorem rounds_of_many (hA : A.Follows R) (h : (A.many greedy before after onward).isSome = true) :
    ∃ u v, after = u ++ v ∧ R.times 0 none before u v ∧ (onward (before ++ u) v).isSome = true := by
  generalize hn : after.length = n
  induction n using Nat.strong_induction_on generalizing before after with
  | _ n ih =>
    rw [Attempt.many, isSome_prefer] at h
    rcases h with h | h
    · obtain ⟨u, v, rfl, hu, h⟩ := hA.isSome_iff.mp h
      split at h
      · next hlt =>
        obtain ⟨w, x, rfl, ⟨m, -, -, hm⟩, h⟩ := ih _ (hn ▸ hlt) h rfl
        exact ⟨u ++ w, x, by simp, ⟨m + 1, Nat.zero_le _, by simp, u, w, rfl, hu, hm⟩,
          by simpa using h⟩
      · exact ⟨u, v, rfl, ⟨1, Nat.zero_le _, by simp, Between.power_one.mpr hu⟩, h⟩
    · exact ⟨[], after, rfl, ⟨0, Nat.le_refl 0, by simp, rfl⟩, by simpa using h⟩

theorem many_of_rounds (hA : A.Follows R) {n : Nat} {word rest : List UInt8}
    (hn : R.power n before word rest) (h : (onward (before ++ word) rest).isSome = true) :
    (A.many greedy before (word ++ rest) onward).isSome = true := by
  induction n generalizing before word with
  | zero =>
    obtain rfl := hn
    rw [Attempt.many, isSome_prefer]
    exact Or.inr (by simpa using h)
  | succ n ih =>
    obtain ⟨u, v, rfl, hu, hv⟩ := hn
    have hmore := ih hv (by simpa using h)
    -- a round that takes nothing can be left out
    cases u with
    | nil => simpa using hmore
    | cons b u =>
      rw [Attempt.many, isSome_prefer]
      refine Or.inl (hA.isSome_iff.mpr ⟨b :: u, v ++ rest, by simp, hu, ?_⟩)
      rw [if_pos (by simp)]
      exact hmore

theorem many_congr (hA : A.Follows R) (h : ∀ u v, after = u ++ v → R.times 0 none before u v →
    onward (before ++ u) v = onward' (before ++ u) v) :
    A.many greedy before after onward = A.many greedy before after onward' := by
  generalize hn : after.length = n
  induction n using Nat.strong_induction_on generalizing before after with
  | _ n ih =>
    have hround : (A before after fun before' after' =>
        if after'.length < after.length then A.many greedy before' after' onward
        else onward before' after') =
        A before after fun before' after' =>
          if after'.length < after.length then A.many greedy before' after' onward'
          else onward' before' after' := by
      refine hA.congr fun u v hafter hu => ?_
      split
      · next hlt =>
        refine ih _ (hn ▸ hlt) (fun w x hv hw => ?_) rfl
        subst hv
        obtain ⟨m, -, -, hm⟩ := hw
        simpa using h (u ++ w) x (by simp [hafter])
          ⟨m + 1, Nat.zero_le _, by simp, u, w, rfl, hu, hm⟩
      · exact h u v hafter ⟨1, Nat.zero_le _, by simp, Between.power_one.mpr hu⟩
    have hgo : onward before after = onward' before after := by
      simpa using h [] after rfl ⟨0, Nat.le_refl 0, by simp, rfl⟩
    rw [Attempt.many, hround, hgo]
    conv_rhs => rw [Attempt.many]

end Many

theorem many (hA : A.Follows R) (greedy : Bool) : Follows (A.many greedy) (R.times 0 none) where
  isSome_iff := by
    intro before after onward
    refine ⟨rounds_of_many hA, ?_⟩
    rintro ⟨word, rest, rfl, ⟨n, -, -, hn⟩, h⟩
    exact many_of_rounds hA hn h
  congr := many_congr hA

theorem times {min : Nat} {max : Option Nat} (hA : A.Follows R) (hle : ∀ m ∈ max, min ≤ m)
    (greedy : Bool) : (A.times min max greedy).Follows (R.times min max) := by
  have hsplit : (R.power min).append (R.times 0 (max.map (· - min))) = R.times min max :=
    Between.ext fun _ _ _ => (Between.times_split min max hle).symm
  cases max with
  | none => exact ((hA.exactly min).seq (hA.many greedy)).of_eq hsplit
  | some n => exact ((hA.exactly min).seq (hA.upTo greedy (n - min))).of_eq hsplit

theorem noting (hA : A.Follows R) (note : τ → τ) : (A.noting note).Follows R where
  isSome_iff := by
    intro before after onward
    rw [Attempt.noting, hA.isSome_iff]
    simp only [Option.isSome_map]
  congr := by
    intro before after onward onward' h
    refine hA.congr fun u v hafter hu => ?_
    rw [h u v hafter hu]

end Follows

def Along (h : τ → σ) (A : Attempt τ) (B : Attempt σ) : Prop :=
  ∀ (before after : List UInt8) (onward : Onward τ),
    B before after (fun before after => (onward before after).map h) = (A before after onward).map h

def Bare (A : Attempt τ) : Prop := ∀ t : τ, Along (fun _ => t) A A

theorem prefer_map (h : τ → σ) (greedy : Bool) (into past : Option τ) :
    prefer greedy (into.map h) (past.map h) = (prefer greedy into past).map h := by
  cases greedy <;> simp [prefer, Option.map_or]

namespace Along

variable {h : τ → σ} {A₁ A₂ : Attempt τ} {B₁ B₂ : Attempt σ}

theorem stay : Along h stay stay := fun _ _ _ => rfl

theorem never : Along h never never := fun _ _ _ => rfl

theorem check (l : Look) : Along h (check l) (check l) := by
  intro before after onward
  rw [Attempt.check, Attempt.check]
  split <;> rfl

theorem word (bs : List UInt8) : Along h (word bs) (word bs) := by
  intro before after onward
  rw [Attempt.word, Attempt.word]
  split <;> rfl

theorem byteOf (s : Intervals) : Along h (byteOf s) (byteOf s) := by
  intro before after onward
  unfold Attempt.byteOf
  split
  · split <;> rfl
  · rfl

theorem charOf (s : Intervals) : Along h (charOf s) (charOf s) := by
  intro before after onward
  unfold Attempt.charOf
  split
  · split
    · exact word _ _ _ _
    · rfl
  · rfl

theorem seq (h₁ : Along h A₁ B₁) (h₂ : Along h A₂ B₂) : Along h (A₁.seq A₂) (B₁.seq B₂) := by
  intro before after onward
  unfold Attempt.seq
  rw [← h₁]
  congr 1
  funext before after
  exact h₂ before after onward

theorem either (h₁ : Along h A₁ B₁) (h₂ : Along h A₂ B₂) :
    Along h (A₁.either A₂) (B₁.either B₂) := by
  intro before after onward
  rw [Attempt.either, Attempt.either, h₁, h₂, Option.map_or]

theorem exactly (h₁ : Along h A₁ B₁) (n : Nat) : Along h (A₁.exactly n) (B₁.exactly n) := by
  induction n with
  | zero => exact stay
  | succ n ih => exact h₁.seq ih

theorem upTo (h₁ : Along h A₁ B₁) (greedy : Bool) (n : Nat) :
    Along h (A₁.upTo greedy n) (B₁.upTo greedy n) := by
  induction n with
  | zero => exact stay
  | succ n ih =>
    intro before after onward
    have hround := (h₁.seq ih) before after onward
    rw [Attempt.seq, Attempt.seq] at hround
    rw [Attempt.upTo, Attempt.upTo, ← prefer_map, ← hround]

theorem many (h₁ : Along h A₁ B₁) (greedy : Bool) : Along h (many greedy A₁) (many greedy B₁) := by
  intro before after onward
  generalize hn : after.length = n
  induction n using Nat.strong_induction_on generalizing before after with
  | _ n ih =>
    rw [Attempt.many]
    conv_rhs => rw [Attempt.many, ← prefer_map, ← h₁]
    congr 2
    funext before' after'
    split
    · next hlt => exact ih _ (hn ▸ hlt) before' after' rfl
    · rfl

theorem times (h₁ : Along h A₁ B₁) (min : Nat) (max : Option Nat) (greedy : Bool) :
    Along h (A₁.times min max greedy) (B₁.times min max greedy) := by
  cases max with
  | none => exact (h₁.exactly min).seq (h₁.many greedy)
  | some n => exact (h₁.exactly min).seq (h₁.upTo greedy (n - min))

theorem noting {f : τ → τ} {g : σ → σ} (h₁ : Along h A₁ B₁) (hfg : ∀ t, h (f t) = g (h t)) :
    Along h (A₁.noting f) (B₁.noting g) := by
  intro before after onward
  unfold Attempt.noting
  rw [← h₁]
  congr 1
  funext before after
  show ((onward before after).map h).map g = ((onward before after).map f).map h
  rw [Option.map_map, Option.map_map]
  exact congrArg (fun k => (onward before after).map k) (funext fun t => (hfg t).symm)

end Along

section Single

variable {before after : List UInt8}

theorem Follows.single {A : Attempt (Set String)} (hA : A.Follows R) (hR : R.Fixed)
    (hadds : ∀ S : Set String, Along (S ∪ ·) A A) (before after : List UInt8) :
    (∀ onward, A before after onward = none) ∨
      ∃ u v S, after = u ++ v ∧ R before u v ∧ ∀ onward,
        A before after onward = (onward (before ++ u) v).map (S ∪ ·) := by
  by_cases hex : ∃ u v, after = u ++ v ∧ R before u v
  · obtain ⟨u, v, hafter, hu⟩ := hex
    have honly : ∀ u' v', after = u' ++ v' → R before u' v' → u' = u ∧ v' = v := by
      intro u' v' hafter' hu'
      obtain rfl := hR (hafter'.symm.trans hafter) hu' hu
      exact ⟨rfl, List.append_cancel_left (hafter'.symm.trans hafter)⟩
    have hsome : (A before after fun _ _ => some ∅).isSome = true :=
      hA.isSome_iff.mpr ⟨u, v, hafter, hu, rfl⟩
    obtain ⟨S, hS⟩ := Option.isSome_iff_exists.mp hsome
    refine Or.inr ⟨u, v, S, hafter, hu, fun onward => ?_⟩
    cases hgo : onward (before ++ u) v with
    | none =>
      refine Option.not_isSome_iff_eq_none.mp fun h => ?_
      obtain ⟨u', v', hafter', hu', h⟩ := hA.isSome_iff.mp h
      obtain ⟨rfl, rfl⟩ := honly u' v' hafter' hu'
      rw [hgo] at h
      cases h
    | some t =>
      have hsame : A before after onward = A before after fun _ _ =>
          (some (∅ : Set String)).map (t ∪ ·) := by
        refine hA.congr fun u' v' hafter' hu' => ?_
        obtain ⟨rfl, rfl⟩ := honly u' v' hafter' hu'
        rw [hgo, Option.map_some, Set.union_empty]
      rw [hsame, hadds t before after fun _ _ => some ∅, hS, Option.map_some, Option.map_some,
        Set.union_comm]
  · refine Or.inl fun onward => Option.not_isSome_iff_eq_none.mp fun h => ?_
    obtain ⟨u, v, hafter, hu, -⟩ := hA.isSome_iff.mp h
    exact hex ⟨u, v, hafter, hu⟩

theorem Follows.seq_either {A B C : Attempt (Set String)} (hA : A.Follows R) (hR : R.Fixed)
    (hadds : ∀ S : Set String, Along (S ∪ ·) A A) :
    A.seq (B.either C) = (A.seq B).either (A.seq C) := by
  funext before after onward
  rcases hA.single hR hadds before after with hnone | ⟨u, v, S, -, -, hone⟩
  · simp [Attempt.seq, Attempt.either, hnone]
  · simp [Attempt.seq, Attempt.either, hone, Option.map_or]

theorem Follows.seq_anyOf {A : Attempt (Set String)} (hA : A.Follows R) (hR : R.Fixed)
    (hadds : ∀ S : Set String, Along (S ∪ ·) A A) (Bs : List (Attempt (Set String))) :
    A.seq (anyOf Bs) = anyOf (Bs.map A.seq) := by
  induction Bs with
  | nil =>
    funext before after onward
    refine Option.not_isSome_iff_eq_none.mp fun h => ?_
    obtain ⟨u, v, -, -, hnever⟩ := hA.isSome_iff.mp h
    cases hnever
  | cons B Bs ih => rw [List.map_cons, anyOf, anyOf, hA.seq_either hR hadds, ih]

/-- Over a relation that allows at most one word at every place there is one attempt that notes
nothing. -/
theorem Follows.eq_of_fixed (hA : A.Follows R) (hB : B.Follows R) (hR : R.Fixed) (hbareA : A.Bare)
    (hbareB : B.Bare) :
    A = B := by
  have hvalue : ∀ {A : Attempt τ}, A.Follows R → A.Bare → ∀ {before u v onward}, R before u v →
      A before (u ++ v) onward = onward (before ++ u) v := by
    intro A hA hbare before u v onward hu
    have honly : ∀ u' v', u ++ v = u' ++ v' → R before u' v' → u' = u ∧ v' = v := by
      intro u' v' heq hu'
      obtain rfl := hR heq.symm hu' hu
      exact ⟨rfl, List.append_cancel_left heq.symm⟩
    cases hgo : onward (before ++ u) v with
    | none =>
      refine Option.not_isSome_iff_eq_none.mp fun h => ?_
      obtain ⟨u', v', heq, hu', hsome⟩ := hA.isSome_iff.mp h
      obtain ⟨rfl, rfl⟩ := honly u' v' heq hu'
      rw [hgo] at hsome
      cases hsome
    | some t =>
      have hsome : (A before (u ++ v) onward).isSome = true :=
        hA.isSome_iff.mpr ⟨u, v, rfl, hu, by rw [hgo]; rfl⟩
      obtain ⟨t', ht'⟩ := Option.isSome_iff_exists.mp hsome
      have hsame : A before (u ++ v) onward = A before (u ++ v) fun before after =>
          (onward before after).map fun _ => t := by
        refine hA.congr fun u' v' heq hu' => ?_
        obtain ⟨rfl, rfl⟩ := honly u' v' heq hu'
        rw [hgo, Option.map_some]
      rw [hsame, hbare t, ht', Option.map_some]
  funext before after onward
  by_cases hex : ∃ u v, after = u ++ v ∧ R before u v
  · obtain ⟨u, v, rfl, hu⟩ := hex
    rw [hvalue hA hbareA hu, hvalue hB hbareB hu]
  · have hnone : ∀ {A : Attempt τ}, A.Follows R → A before after onward = none := by
      intro A hA
      refine Option.not_isSome_iff_eq_none.mp fun h => ?_
      obtain ⟨u, v, hafter, hu, -⟩ := hA.isSome_iff.mp h
      exact hex ⟨u, v, hafter, hu⟩
    rw [hnone hA, hnone hB]

end Single

end Attempt

section Fixed

theorem fixed_nothing : Between.nothing.Fixed := fun _ _ _ _ _ _ hu hu' => hu.trans hu'.symm

theorem fixed_look (l : Look) : (Form.look l).Matches.Fixed :=
  fun _ _ _ _ _ _ hu hu' => hu.1.trans hu'.1.symm

theorem fixed_literal (bs : List UInt8) : (Form.literal bs).Matches.Fixed :=
  fun _ _ _ _ _ _ hu hu' => hu.trans hu'.symm

theorem fixed_spells (d : Domain) (s : Intervals) : (spells d s).Fixed := by
  intro before u v u' v' heq hu hu'
  cases d with
  | byte =>
    obtain ⟨b, -, rfl⟩ := hu
    obtain ⟨b', -, rfl⟩ := hu'
    obtain ⟨rfl, -⟩ := List.cons.inj heq
    rfl
  | scalar =>
    obtain ⟨c, -, rfl⟩ := hu
    obtain ⟨c', -, rfl⟩ := hu'
    have hdecode := Attempt.Follows.decode_encodeChar c v
    rw [heq, Attempt.Follows.decode_encodeChar] at hdecode
    rw [Option.some.inj hdecode]

end Fixed

end Keypad.Pattern
