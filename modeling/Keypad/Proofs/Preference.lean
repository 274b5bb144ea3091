import Keypad.Proofs.Attempts
import Keypad.Proofs.Gathering
/-!
What the constructors of the normal form do to the order of preference. Joined literals, merged
classes and collapsed repetitions keep it. A common start that is drawn out of alternatives keeps it
where the start allows one word at most at every place; elsewhere the start is now preferred to the
choice behind it.
-/
namespace Keypad.Pattern

open Keypad.Charset
open Attempt (allOf anyOf)

def named : Nat → Option String → Set String → Set String
  | _, some name, S => insert name S
  | _, none, S => S

theorem union_named (S T : Set String) (i : Nat) (name : Option String) :
    named i name T ∪ S = named i name (T ∪ S) := by
  cases name with
  | none => rfl
  | some name => exact Set.insert_union

namespace Form

section Laws

variable {τ σ : Type} {mark : Nat → Option String → τ → τ}
  {mark' : Nat → Option String → σ → σ} {f : Form}

theorem attempt_follows (hf : f.Regular) : (f.attempt mark).Follows f.Matches := by
  induction f with
  | empty => exact .stay
  | look l => exact .check l
  | literal bs => exact .word bs
  | bytes s => exact .byteOf s
  | chars s => exact .charOf s
  | iterate min max greedy sub ih => exact (ih hf.2).times hf.1 greedy
  | group i name sub ih => exact (ih hf).noting _
  | seq a b iha ihb => exact (iha hf.1).seq (ihb hf.2)
  | alt a b iha ihb => exact (iha hf.1).either (ihb hf.2)

theorem attempt_along {h : τ → σ}
    (hmark : ∀ i name, (i, name) ∈ f.groups → ∀ t, h (mark i name t) = mark' i name (h t)) :
    Attempt.Along h (f.attempt mark) (f.attempt mark') := by
  induction f with
  | empty => exact .stay
  | look l => exact .check l
  | literal bs => exact .word bs
  | bytes s => exact .byteOf s
  | chars s => exact .charOf s
  | iterate min max greedy sub ih => exact (ih hmark).times min max greedy
  | group i name sub ih =>
    have hsub := ih fun j other hmem => hmark j other (List.mem_cons_of_mem _ hmem)
    exact hsub.noting (hmark i name List.mem_cons_self)
  | seq a b iha ihb =>
    have ha := iha fun i name hmem => hmark i name (List.mem_append_left _ hmem)
    have hb := ihb fun i name hmem => hmark i name (List.mem_append_right _ hmem)
    exact ha.seq hb
  | alt a b iha ihb =>
    have ha := iha fun i name hmem => hmark i name (List.mem_append_left _ hmem)
    have hb := ihb fun i name hmem => hmark i name (List.mem_append_right _ hmem)
    exact ha.either hb

theorem attempt_bare (hf : f.groups = []) : (f.attempt mark).Bare := by
  intro t
  refine attempt_along fun i name hmem => ?_
  rw [hf] at hmem
  cases hmem

theorem attempt_adds (f : Form) (S : Set String) :
    Attempt.Along (S ∪ ·) (f.attempt named) (f.attempt named) := by
  refine attempt_along fun i name _ T => ?_
  rw [Set.union_comm, union_named, Set.union_comm T]

end Laws

section Rows

variable {τ : Type} (mark : Nat → Option String → τ → τ) (fs : List Form)

theorem attempt_ofParts : (ofParts fs).attempt mark = allOf (fs.map (attempt mark)) := by
  induction fs with
  | nil => rfl
  | cons f fs ih =>
    cases fs with
    | nil => rfl
    | cons g fs =>
      rw [ofParts, attempt, ih]
      · rfl
      · simp

theorem attempt_parts (f : Form) : allOf (f.parts.map (attempt mark)) = f.attempt mark := by
  induction f with
  | seq a b _ ih => rw [parts, List.map_cons, allOf, ih, attempt]
  | _ => rfl

theorem attempt_flatMap_parts :
    allOf ((fs.flatMap parts).map (attempt mark)) = allOf (fs.map (attempt mark)) := by
  induction fs with
  | nil => rfl
  | cons f fs ih => simp [ih, attempt_parts, allOf]

theorem attempt_fail : fail.attempt mark = Attempt.never := by
  funext before after onward
  show Attempt.byteOf [] before after onward = none
  cases after <;> rfl

theorem attempt_ofBranches : (ofBranches fs).attempt mark = anyOf (fs.map (attempt mark)) := by
  induction fs with
  | nil => exact attempt_fail mark
  | cons f fs ih =>
    cases fs with
    | nil => exact (Attempt.anyOf_singleton _).symm
    | cons g fs =>
      rw [ofBranches, attempt, ih]
      · rfl
      · simp

theorem attempt_branches (f : Form) : anyOf (f.branches.map (attempt mark)) = f.attempt mark := by
  induction f with
  | alt a b _ ih => rw [branches, List.map_cons, anyOf, ih, attempt]
  | _ => exact Attempt.anyOf_singleton _

theorem attempt_flatMap_branches :
    anyOf ((fs.flatMap branches).map (attempt mark)) = anyOf (fs.map (attempt mark)) := by
  induction fs with
  | nil => rfl
  | cons f fs ih =>
    simp [ih, attempt_branches, anyOf]

theorem attempt_literal_append (bs cs : List UInt8) : (Attempt.word (bs ++ cs) : Attempt τ) =
    (Attempt.word bs).seq (Attempt.word cs) := by
  have hboth : ((Attempt.word bs).seq (Attempt.word cs) : Attempt τ).Follows
      (literal (bs ++ cs)).Matches :=
    ((Attempt.Follows.word bs).seq (.word cs)).of_eq (literal_append bs cs).symm
  exact (Attempt.Follows.word _).eq_of_fixed hboth (fixed_literal _) (fun _ => .word _)
    fun _ => (Attempt.Along.word bs).seq (.word cs)

theorem attempt_joinLiterals :
    allOf ((joinLiterals fs).map (attempt mark)) = allOf (fs.map (attempt mark)) := by
  fun_induction joinLiterals fs with
  | case1 => rfl
  | case2 rest ih =>
    rw [ih, List.map_cons, allOf]
    exact (Attempt.stay_seq _).symm
  | case3 bs rest cs more heq ih =>
    rw [heq, List.map_cons, allOf] at ih
    rw [List.map_cons, List.map_cons, allOf, allOf, ← ih, ← Attempt.seq_assoc]
    exact congrArg (Attempt.seq · _) (attempt_literal_append bs cs)
  | case4 bs rest heq ih => rw [List.map_cons, List.map_cons, allOf, allOf, ih]
  | case5 f rest _ _ ih => rw [List.map_cons, List.map_cons, allOf, allOf, ih]

theorem attempt_concat : (concat fs).attempt mark = allOf (fs.map (attempt mark)) := by
  rw [concat, attempt_ofParts, attempt_joinLiterals, attempt_flatMap_parts]

end Rows

section Alternatives

variable {f : Form} {fs : List Form}

theorem fixed_classOf (d : Domain) (s : Intervals) : (classOf d s).Matches.Fixed := by
  unfold classOf fail
  split
  · exact fixed_spells .byte []
  split
  · exact fixed_literal _
  · exact fixed_literal _
  · exact fixed_spells .byte s
  · exact fixed_spells .scalar s

variable {τ : Type} {mark : Nat → Option String → τ → τ}

theorem follows_anyOf (hsound : ∀ f ∈ fs, f.Sound) :
    (anyOf (fs.map (attempt mark))).Follows (Between.any (fs.map Matches)) := by
  induction fs with
  | nil =>
    refine Attempt.Follows.never.of_eq (Between.ext fun before word after => ?_)
    exact iff_of_false id Between.any_nil
  | cons f fs ih =>
    obtain ⟨hf, hfs⟩ := List.forall_mem_cons.mp hsound
    rw [List.map_cons, List.map_cons, anyOf, Between.any_cons]
    exact (attempt_follows hf.regular).either (ih hfs)

theorem follows_allOf (hsound : ∀ f ∈ fs, f.Sound) :
    (allOf (fs.map (attempt mark))).Follows (Between.all (fs.map Matches)) := by
  induction fs with
  | nil => exact .stay
  | cons f fs ih =>
    obtain ⟨hf, hfs⟩ := List.forall_mem_cons.mp hsound
    exact (attempt_follows hf.regular).seq (ih hfs)

theorem bare_anyOf (h : ∀ f ∈ fs, f.groups = []) : (anyOf (fs.map (attempt mark))).Bare := by
  intro t
  induction fs with
  | nil => exact .never
  | cons f fs ih =>
    obtain ⟨hf, hfs⟩ := List.forall_mem_cons.mp h
    exact (attempt_bare hf t).either (ih hfs)

theorem adds_allOf (fs : List Form) (S : Set String) :
    Attempt.Along (S ∪ ·) (allOf (fs.map (attempt named))) (allOf (fs.map (attempt named))) := by
  induction fs with
  | nil => exact .stay
  | cons f fs ih => exact (attempt_adds f S).seq ih

theorem attempt_merged (hsound : ∀ f ∈ fs, f.Sound) (h : merged? fs = some f) :
    f.attempt mark = anyOf (fs.map (attempt mark)) := by
  obtain ⟨hmatches, hf⟩ := merged?_eq_some hsound h
  obtain ⟨⟨d, s, rfl⟩, hgroups⟩ := merged?_cases h
  have hfollows : ((classOf d s).attempt mark).Follows (Between.any (fs.map Matches)) :=
    hmatches ▸ attempt_follows hf.regular
  have hfixed : (Between.any (fs.map Matches)).Fixed := hmatches ▸ fixed_classOf d s
  exact hfollows.eq_of_fixed (follows_anyOf hsound) hfixed
    (attempt_bare (gathers_groups.classOf d s)) (bare_anyOf hgroups)

/-- Wherever a common start is drawn out of alternatives it allows one word at most. -/
def SteadyWithin : Nat → List Form → Prop
  | fuel, alts =>
    match fuel, sharedStart? (alts.flatMap branches) with
    | fuel + 1, some (common, rests) =>
      (Between.all (common.map Matches)).Fixed ∧ SteadyWithin fuel (rests.map concat)
    | _, _ => True

def Steady (fs : List Form) : Prop := SteadyWithin (fs.foldr (fun f n => f.size + n) 1) fs

theorem attempt_sharedStart {common : List Form} {rests : List (List Form)}
    (h : sharedStart? fs = some (common, rests)) (hsound : ∀ f ∈ common, f.Sound)
    (hfixed : (Between.all (common.map Matches)).Fixed) :
    (allOf (common.map (attempt named))).seq
      (anyOf (rests.map fun r => allOf (r.map (attempt named)))) =
      anyOf (fs.map (attempt named)) := by
  obtain ⟨-, hparts, rfl⟩ := sharedStart?_eq_some h
  rw [(follows_allOf hsound).seq_anyOf hfixed (adds_allOf common), List.map_map, List.map_map]
  congr 1
  refine List.map_congr_left fun f hf => ?_
  have hf := congrArg (fun gs => allOf (gs.map (attempt named))) (hparts f hf)
  simp only [List.map_append, Attempt.allOf_append] at hf
  rw [← attempt_parts named f, hf]
  rfl

theorem attempt_alternateWithin (fuel : Nat) (hsound : ∀ f ∈ fs, f.Sound)
    (hsteady : SteadyWithin fuel fs) :
    (alternateWithin fuel fs).attempt named = anyOf (fs.map (attempt named)) := by
  induction fuel using Nat.strong_induction_on generalizing fs with
  | _ fuel ih =>
    have hbranches : ∀ f ∈ fs.flatMap branches, f.Sound := by
      intro g hg
      obtain ⟨f, hf, hg⟩ := List.mem_flatMap.mp hg
      exact sound_branches (hsound f hf) g hg
    rw [← attempt_flatMap_branches]
    rcases alternateWithin_cases fuel fs with h | h | ⟨less, common, rests, rfl, hshared, h⟩
    · rw [h, attempt_ofBranches]
    · exact attempt_merged hbranches h
    · obtain ⟨hcommon, hrests⟩ := sound_sharedStart hbranches hshared
      unfold SteadyWithin at hsteady
      rw [hshared] at hsteady
      rw [h, attempt_concat, List.map_append, Attempt.allOf_append, List.map_singleton,
        Attempt.allOf_singleton, ih less (Nat.lt_succ_self less) hrests hsteady.2, List.map_map,
          ← attempt_sharedStart hshared hcommon hsteady.1]
      congr 2
      exact List.map_congr_left fun r _ => attempt_concat named r

/-- Alternatives are tried in their order, where what is drawn out of them keeps it. -/
theorem attempt_alternate (hsound : ∀ f ∈ fs, f.Sound) (hsteady : Steady fs) :
    (alternate fs).attempt named = anyOf (fs.map (attempt named)) :=
  attempt_alternateWithin _ hsound hsteady

end Alternatives

section Repetition

def Idle (A : Attempt (Set String)) : Prop :=
  ∀ before after, (∀ onward, A before after onward = none) ∨
  ∃ S, ∀ onward, A before after onward = (onward before after).map (S ∪ ·)

theorem idle_of_maxLength {f : Form} (hf : f.Regular) (hempty : f.maxLength = some 0) :
    Idle (f.attempt named) := by
  have hword : ∀ {before word after}, f.Matches before word after → word = [] :=
    fun h => eq_nil_of_maxLength hempty h
  have hfixed : f.Matches.Fixed := fun _ _ _ _ _ _ hu hu' => (hword hu).trans (hword hu').symm
  intro before after
  rcases (attempt_follows hf).single hfixed (attempt_adds f) before after with
    hnone | ⟨u, v, S, rfl, hu, hone⟩
  · exact Or.inl hnone
  · obtain rfl := hword hu
    exact Or.inr ⟨S, fun onward => by rw [hone, List.append_nil, List.nil_append]⟩

variable {A : Attempt (Set String)} {before after : List UInt8} {greedy : Bool}

theorem exactly_idle (hA : Idle A) (n : Nat) (onward : Onward (Set String)) :
    A.exactly n before after onward = if n = 0 then onward before after
    else A before after onward := by
  induction n generalizing onward with
  | zero => rfl
  | succ n ih =>
    rw [if_neg (Nat.succ_ne_zero n)]
    show A before after (fun before after => A.exactly n before after onward) =
      A before after onward
    rcases hA before after with hnone | ⟨S, hone⟩
    · rw [hnone, hnone]
    · rw [hone, hone, ih]
      split
      · rfl
      · rw [hone, Option.map_map]
        congr 1
        funext T
        rw [Function.comp_apply, ← Set.union_assoc, Set.union_self]

theorem prefer_idle (hA : Idle A) (onward : Onward (Set String)) :
    prefer greedy (A before after fun before after =>
      prefer greedy (A before after onward) (onward before after))
      (onward before after) = prefer greedy (A before after onward) (onward before after) := by
  rcases hA before after with hnone | ⟨S, hone⟩
  · rw [hnone, hnone]
  · simp only [hone]
    cases onward before after with
    | none => cases greedy <;> rfl
    | some T => cases greedy <;> simp [prefer]

theorem upTo_idle (hA : Idle A) (n : Nat) (onward : Onward (Set String)) :
    A.upTo greedy n before after onward =
    if n = 0 then onward before after
    else prefer greedy (A before after onward) (onward before after) := by
  induction n generalizing before after with
  | zero => rfl
  | succ n ih =>
    rw [if_neg (Nat.succ_ne_zero n), Attempt.upTo]
    by_cases hn : n = 0
    · subst hn
      rfl
    · simp only [ih, if_neg hn]
      exact prefer_idle hA onward

theorem many_idle (hA : Idle A) (onward : Onward (Set String)) :
    A.many greedy before after onward =
      prefer greedy (A before after onward) (onward before after) := by
  rw [Attempt.many]
  rcases hA before after with hnone | ⟨S, hone⟩
  · rw [hnone, hnone]
  · rw [hone, hone, if_neg (Nat.lt_irrefl _)]

theorem times_idle (hA : Idle A) (min : Nat) (max : Option Nat) (onward : Onward (Set String)) :
    A.times min max greedy before after onward =
      if min = 0 then
        if max = some 0 then onward before after
        else prefer greedy (A before after onward) (onward before after)
      else A before after onward := by
  have hsaturated : ∀ rest : Attempt (Set String),
      (∀ before after, rest before after onward = onward before after ∨
      rest before after onward = prefer greedy (A before after onward) (onward before after)) →
      A before after (fun before after => rest before after onward) = A before after onward := by
    intro rest hrest
    rcases hA before after with hnone | ⟨S, hone⟩
    · rw [hnone, hnone]
    · rw [hone, hone]
      rcases hrest before after with h | h
      · rw [h]
      · rw [h, hone]
        cases onward before after with
        | none => cases greedy <;> rfl
        | some T => cases greedy <;> simp [prefer]
  unfold Attempt.times Attempt.seq
  rw [exactly_idle hA]
  cases max with
  | none =>
    dsimp only
    have hunbounded : ¬ (none : Option Nat) = some 0 := by simp
    rw [many_idle hA, if_neg hunbounded,
      hsaturated _ fun before after => Or.inr (many_idle hA onward)]
  | some m =>
    have hup : ∀ before after, A.upTo greedy (m - min) before after onward = onward before after ∨
        A.upTo greedy (m - min) before after onward =
          prefer greedy (A before after onward) (onward before after) := by
      intro before after
      rw [upTo_idle hA]
      split
      · exact Or.inl rfl
      · exact Or.inr rfl
    dsimp only
    rw [hsaturated _ hup]
    by_cases hzero : min = 0
    · subst hzero
      rw [if_pos rfl, if_pos rfl, upTo_idle hA, Nat.sub_zero]
      simp
    · rw [if_neg hzero, if_neg hzero]

theorem attempt_iterated (min : Nat) (max : Option Nat) (greedy : Bool) {f : Form}
    (hf : f.Sound) :
    (iterated min max greedy f).attempt named = (f.attempt named).times min max greedy := by
  have hcollapse : ∀ lo hi, (if lo = 0 ∧ hi = some 0 then empty else if lo = 1 ∧ hi = some 1 then f
      else iterate lo hi greedy f).attempt named = (f.attempt named).times lo hi greedy := by
    intro lo hi
    split
    · next h =>
      obtain ⟨rfl, rfl⟩ := h
      rfl
    split
    · next h =>
      obtain ⟨rfl, rfl⟩ := h
      rfl
    · rfl
  obtain ⟨lo, hi, h, ⟨rfl, rfl⟩ | ⟨hempty, hlo, hhi⟩⟩ := iterated_eq min max greedy f
  · rw [h, hcollapse]
  · have hidle := idle_of_maxLength hf.regular hempty
    have hzero : lo = 0 ↔ min = 0 := by
      have hmin : lo = Min.min min 1 := hlo
      omega
    have hnone : hi = some 0 ↔ max = some 0 := by
      rw [hhi]
      cases max with
      | none => simp
      | some m =>
        have hmin : Nat.min m 1 = Min.min m 1 := rfl
        simp only [Option.map_some, Option.getD_some, Option.some.injEq]
        omega
    rw [h, hcollapse]
    funext before after onward
    rw [times_idle hidle lo hi, times_idle hidle min max,
      if_congr hzero (if_congr hnone rfl rfl) rfl]

end Repetition

end Form

end Keypad.Pattern
