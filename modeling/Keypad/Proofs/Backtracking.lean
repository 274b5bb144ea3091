import Keypad.Proofs.Preferred
/-!
Where no thread gets back to an instruction without reading, the preferred route is the one that a
single thread finds that tries its ways on one after the other, the preferred one first, and comes
back when a way fails.
-/
namespace Keypad.Automaton

open Keypad.Pattern Relation

namespace Program

variable {p : Program} {before after rest : List UInt8} {pc : Nat} {r : Option Trail}

/-- What comes of a thread that tries its ways on from an instruction in their order: the groups
that it leaves until it gets to the end of the program, latest first. The number bounds its moves up
to the next byte. -/
inductive Tries (p : Program) : Nat → Nat → List UInt8 → List UInt8 → Option Trail → Prop
  | accept {n pc before after} (h : p.isAccept pc = true) : Tries p n pc before after (some [])
  | read {n m pc next before b rest r} (h : p.read? b pc = some next)
      (t : Tries p m next (before ++ [b]) rest r) : Tries p n pc before (b :: rest) r
  | refuse {n pc before after} (hw : p.waits (holdsAt before after) pc = true)
      (ha : p.isAccept pc = false)
      (h : ∀ b rest, after = b :: rest → p.read? b pc = none) : Tries p n pc before after none
  | move {n pc before after} {found : Nat → Option Trail}
      (hw : p.waits (holdsAt before after) pc = false)
      (h : ∀ w ∈ p.branches (holdsAt before after) pc, Tries p n w before after (found w)) :
      Tries p (n + 1) pc before after
        (((p.branches (holdsAt before after) pc).findSome? found).map (· ++ p.leaves pc))

def Tried (p : Program) (pc : Nat) (before after : List UInt8) (r : Option Trail) : Prop :=
  ∃ n, p.Tries n pc before after r

theorem Tries.acyclic {n : Nat} (h : p.Tries n pc before after r) :
    ¬ TransGen (fun v w => w ∈ p.branches (holdsAt before after) v) pc pc := by
  have hstuck : ∀ {before after : List UInt8} {pc : Nat}, p.waits (holdsAt before after) pc = true →
      ¬ TransGen (fun v w => w ∈ p.branches (holdsAt before after) v) pc pc := by
    intro before after pc hw hcycle
    obtain ⟨w, hstep, -⟩ := TransGen.head'_iff.mp hcycle
    rw [branches_of_waits hw] at hstep
    cases hstep
  induction h with
  | accept ha => exact hstuck (ready_of_isAccept ha _)
  | read hr => exact hstuck (ready_of_read? hr _)
  | refuse hw => exact hstuck hw
  | move _ _ ih =>
    intro hcycle
    obtain ⟨w, hstep, hback⟩ := TransGen.head'_iff.mp hcycle
    exact ih w hstep (TransGen.tail' hback hstep)

section Value

theorem value_note (w : Nat) (trail : Trail) :
    p.value ∅ before after ⟨w, trail⟩ = (p.value ∅ before after ⟨w, []⟩).map (· ++ trail) := by
  rw [value, value, Option.map_map]
  refine congrArg (fun f => Option.map f _) (funext fun route => ?_)
  simp

theorem value_of_branch (h : ¬ TransGen (fun v w => w ∈ p.branches (holdsAt before after) v) pc pc)
    {t : Thread Trail} (ht : t.pc ∈ p.branches (holdsAt before after) pc) :
    p.value (insert ⟨pc, before, after⟩ ∅) before after t = p.value ∅ before after t := by
  let ahead : Set Place :=
    {x | before.length < x.before.length ∨ x.before = before ∧ x.after = after ∧
    TransGen (fun v w => w ∈ p.branches (holdsAt before after) v) pc x.pc}
  have hways : ∀ x ∈ ahead, ∀ y ∈ p.ways x, y ∈ ahead := by
    rintro x (hlater | ⟨rfl, rfl, hled⟩) y hy
    · exact .inl (Nat.lt_of_lt_of_le hlater (mem_ways hy).2)
    · rcases List.mem_append.mp hy with hy | hy
      · obtain ⟨w, hw, rfl⟩ := List.mem_map.mp hy
        exact .inr ⟨rfl, rfl, hled.tail hw⟩
      · obtain ⟨b, _, _, -, -, rfl⟩ := eq_of_mem_readOn hy
        exact .inl (by simp)
  refine congrArg (Option.map _) (best_congr hways ?_ fun x hx => ?_)
  · exact List.forall_mem_singleton.mpr (.inr ⟨rfl, rfl, .single ht⟩)
  · refine iff_of_false ?_ (Set.notMem_empty x)
    rintro (rfl | hnone)
    · rcases hx with hlater | ⟨-, -, hled⟩
      · exact Nat.lt_irrefl _ hlater
      · exact h hled
    · exact hnone

theorem Tries.value_eq {n : Nat} (h : p.Tries n pc before after r) :
    p.value ∅ before after ⟨pc, []⟩ = r := by
  have hplain : ∀ {pc b next}, p.read? b pc = some next → p.isAccept pc = false := by
    intro pc b next hr
    by_contra ha
    cases (read?_of_isAccept (by simpa using ha)).symm.trans hr
  induction h with
  | accept ha => exact value_of_isAccept (Set.notMem_empty _) ha
  | read hr _ ih =>
    rw [value_of_read (ready_of_read? hr _) (hplain hr), readThread?_eq, hr]
    exact ih
  | @refuse _ pc _ after hw ha hnone =>
    cases after with
    | nil => exact value_at_end hw ha
    | cons b rest =>
      rw [value_of_read hw ha, readThread?_eq, hnone b rest rfl]
      rfl
  | @move n pc before after found hw hbranches ih =>
    have hcycle := (Tries.move hw hbranches).acyclic
    rw [value_of_moves (Set.notMem_empty _) hw, pushed, List.append_nil, List.findSome?_map,
      noted_eq, List.append_nil, List.map_findSome?]
    refine findSome?_congr fun w hmem => ?_
    rw [Function.comp_apply, value_of_branch hcycle hmem, value_note, ih w hmem]
    rfl

noncomputable def outcome (p : Program) (before after : List UInt8) (pc : Nat) : Option Trail :=
  p.value ∅ before after ⟨pc, []⟩

theorem Tried.outcome_eq (h : p.Tried pc before after r) : p.outcome before after pc = r :=
  h.elim fun _ hn => hn.value_eq

end Value

/-- The search for a preferred match finds what comes of the first thread from which anything
comes. -/
theorem preferredMatch_eq (p : Program) (bytes : List UInt8) :
    p.preferredMatch bytes = (openings [] bytes).findSome? fun x =>
      p.outcome x.before x.after x.pc := by
  rw [preferredMatch_eq_best]
  induction openings [] bytes with
  | nil => simp
  | cons x options ih =>
    rw [← List.singleton_append, best_append, List.singleton_append, List.findSome?_cons, ← ih,
      outcome, value]
    cases p.best ∅ [x] <;> simp

end Program

end Keypad.Automaton
