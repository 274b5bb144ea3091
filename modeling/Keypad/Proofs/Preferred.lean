import Keypad.Proofs.FirstRoute
/-!
The search for a preferred match finds the preferred route. It follows all threads at once, place by
place, and keeps them in order; a thread that gets to an instruction that was entered before at the
same place is dropped. Nothing is lost by that: either something comes of the instruction, and of a
thread that is preferred, or nothing does, and the place can be taken for one of the past.
-/
namespace Keypad.Automaton.Program

open Keypad.Pattern

variable {p : Program} {past : Set Place} {before after rest : List UInt8} {t : Thread Trail}
  {stack ts : List (Thread Trail)}

theorem isAcceptThread_eq (t : Thread Trail) : p.isAcceptThread t = p.isAccept t.pc := by
  unfold isAcceptThread isAccept
  cases p.at? t.pc with
  | none => rfl
  | some i => cases i <;> rfl

theorem readThread?_eq (b : UInt8) (t : Thread Trail) :
    p.readThread? b t = (p.read? b t.pc).map (⟨·, t.note⟩) := by
  unfold readThread? read?
  cases p.at? t.pc with
  | none => rfl
  | some i =>
    cases i with
    | byte set next =>
      dsimp only
      split <;> rfl
    | _ => rfl

/-- What comes of a thread: the groups that it has left and those that its route leaves. -/
noncomputable def value (p : Program) (past : Set Place) (before after : List UInt8)
    (t : Thread Trail) :
    Option Trail :=
  (p.best past [⟨t.pc, before, after⟩]).map (p.notes · ++ t.note)

theorem findSome?_congr {α β : Type} {f g : α → Option β} {l : List α} (h : ∀ a ∈ l, f a = g a) :
    l.findSome? f = l.findSome? g := by
  have hmap : l.map f = l.map g := List.map_congr_left h
  have hid : ∀ k : α → Option β, (l.map k).findSome? id = l.findSome? k :=
    fun k => List.findSome?_map
  rw [← hid f, hmap, hid g]

theorem findSome?_value {pcs : List Nat} {trail : Trail} :
    (pcs.map (⟨·, trail⟩ : Nat → Thread Trail)).findSome? (p.value past before after) =
      (p.best past (pcs.map (⟨·, before, after⟩))).map (p.notes · ++ trail) := by
  induction pcs with
  | nil =>
    simp
  | cons pc pcs ih =>
    rw [List.map_cons, List.findSome?_cons, ih, List.map_cons, ← List.singleton_append,
      best_append, value]
    cases p.best past [⟨pc, before, after⟩] <;> rfl

theorem leaves_of_waits {passes : Look → Bool} {pc : Nat} (hw : p.waits passes pc = true) :
    p.leaves pc = [] := by
  unfold waits at hw
  unfold leaves noted
  cases hi : p.at? pc with
  | none => rfl
  | some i =>
    rw [hi] at hw
    cases i with
    | mark => cases hw
    | _ => rfl

section Thread

variable (hnew : ⟨t.pc, before, after⟩ ∉ past)
include hnew

theorem value_of_isAccept (ha : p.isAccept t.pc = true) :
    p.value past before after t = some t.note := by
  rw [value, best_of_isAccept hnew ha, Option.map_some, notes, notes,
    leaves_of_waits (ready_of_isAccept ha fun _ => true)]
  rfl

theorem value_of_new (ha : p.isAccept t.pc = false) : p.value past before after t =
    (p.best (insert ⟨t.pc, before, after⟩ past) (p.ways ⟨t.pc, before, after⟩)).map
      (p.notes · ++ (p.leaves t.pc ++ t.note)) := by
  rw [value, best_of_new hnew ha, Option.map_map]
  refine congrArg (fun f => Option.map f _) (funext fun route => ?_)
  exact List.append_assoc _ _ _

theorem value_of_moves (hw : p.waits (holdsAt before after) t.pc = false) :
    p.value past before after t =
    (pushed p (holdsAt before after) List.cons t []).findSome?
      (p.value (insert ⟨t.pc, before, after⟩ past) before after) := by
  have ha : p.isAccept t.pc = false := by
    by_contra haccept
    cases (ready_of_isAccept (by simpa using haccept) _).symm.trans hw
  have hways : p.ways ⟨t.pc, before, after⟩ = _ := ways_of_not_waits (x := ⟨t.pc, before, after⟩) hw
  rw [value_of_new hnew ha, hways, pushed, List.append_nil, noted_eq, findSome?_value]

end Thread

/-- The places between two byte strings at which an instruction was entered. -/
def entered (before after : List UInt8) (seen : Visited) : Set Place :=
  {x | x.before = before ∧ x.after = after ∧ seen.contains x.pc = true}

theorem entered_insert {seen : Visited} {pc : Nat} :
    entered before after (seen.insert pc) =
      insert ⟨pc, before, after⟩ (entered before after seen) := by
  ext ⟨pc', before', after'⟩
  simp only [entered, Set.mem_ofPred_eq, Set.mem_insert_iff, Place.mk.injEq,
    Visited.contains_insert, Bool.or_eq_true, decide_eq_true_eq]
  tauto

theorem value_of_waits (hnew : ⟨t.pc, before, after⟩ ∉ past) (hpast : ∀ x ∈ past, x.before = before)
    (hw : p.waits (holdsAt before after) t.pc = true) (ha : p.isAccept t.pc = false) :
    p.value past before after t =
      (p.best ∅ (p.readOn ⟨t.pc, before, after⟩)).map (p.notes · ++ t.note) := by
  have hways : p.ways ⟨t.pc, before, after⟩ = _ := ways_of_waits (x := ⟨t.pc, before, after⟩) hw
  rw [value_of_new hnew ha, hways, leaves_of_waits hw, List.nil_append]
  let ahead : Set Place := {x | before.length < x.before.length}
  have hahead : ∀ x ∈ ahead, ∀ y ∈ p.ways x, y ∈ ahead :=
    fun x hx y hy => Nat.lt_of_lt_of_le hx (mem_ways hy).2
  refine congrArg (Option.map _) (best_congr hahead ?_ ?_)
  · intro y hy
    obtain ⟨b, _, _, -, -, rfl⟩ := eq_of_mem_readOn hy
    simp [ahead]
  · refine fun x hx => iff_of_false ?_ (Set.notMem_empty x)
    rintro (rfl | hold)
    · exact absurd hx (Nat.lt_irrefl _)
    · rw [Set.mem_ofPred_eq, hpast x hold] at hx
      exact absurd hx (Nat.lt_irrefl _)

theorem value_eq_of_waits (hnew : ⟨t.pc, before, after⟩ ∉ past)
    (hpast : ∀ x ∈ past, x.before = before) (hw : p.waits (holdsAt before after) t.pc = true) :
    p.value past before after t = p.value ∅ before after t := by
  cases ha : p.isAccept t.pc with
  | true => rw [value_of_isAccept hnew ha, value_of_isAccept (Set.notMem_empty _) ha]
  | false => rw [value_of_waits hnew hpast hw ha, value_of_waits (Set.notMem_empty _) nofun hw ha]

theorem value_insert (hnone : p.value past before after t = none) :
    p.value (insert ⟨t.pc, before, after⟩ past) before after = p.value past before after := by
  funext u
  rw [value, value, best_insert (Option.map_eq_none_iff.mp hnone)]

section Settle

variable {seen : Visited} {fuel : Nat}

theorem pushed_append (passes : Look → Bool) (t : Thread Trail) (stack : List (Thread Trail)) :
    pushed p passes List.cons t stack = pushed p passes List.cons t [] ++ stack := by
  simp [pushed]

theorem findSome?_settle (hfuel : load p seen stack < fuel) :
    (settle p (holdsAt before after) List.cons fuel seen stack).findSome? (p.value ∅ before after) =
      stack.findSome? (p.value (entered before after seen) before after) := by
  induction fuel generalizing seen stack with
  | zero => omega
  | succ fuel ih =>
    cases stack with
    | nil => simp
    | cons t stack =>
      rw [List.findSome?_cons]
      cases hseen : seen.contains t.pc with
      | true =>
        have hnone : p.value (entered before after seen) before after t = none := by
          have hold : (⟨t.pc, before, after⟩ : Place) ∈ entered before after seen :=
            ⟨rfl, rfl, hseen⟩
          rw [value, best_of_mem hold]
          rfl
        rw [settle_seen hseen, hnone]
        exact ih (by simp [load] at hfuel ⊢; omega)
      | false =>
        have hnew : ⟨t.pc, before, after⟩ ∉ entered before after seen := fun h =>
          Bool.false_ne_true (hseen.symm.trans h.2.2)
        have hlt : load p (seen.insert t.pc) (pushed p (holdsAt before after) List.cons t stack) <
          load p seen (t :: stack) := load_new_lt hseen
        have hless : load p (seen.insert t.pc) (pushed p (holdsAt before after) List.cons t stack) <
            fuel := by omega
        have hbehind := ih hless
        rw [settle_new hseen, List.findSome?_append, hbehind, pushed_append, List.findSome?_append,
          entered_insert]
        cases hw : p.waits (holdsAt before after) t.pc with
        | true =>
          have hpushed : pushed p (holdsAt before after) List.cons t [] = [] := by
            simp [pushed, branches_of_waits hw]
          rw [hpushed, if_pos rfl, List.findSome?_singleton,
            ← value_eq_of_waits hnew (fun x hx => hx.1) hw]
          cases hvalue : p.value (entered before after seen) before after t with
          | some trail => rfl
          | none => rw [value_insert hvalue]; rfl
        | false =>
          rw [if_neg (by simp), ← value_of_moves hnew hw]
          cases hvalue : p.value (entered before after seen) before after t with
          | some trail => rfl
          | none => rw [value_insert hvalue]; rfl

theorem findSome?_closure :
    (closure p (holdsAt before after) List.cons ts).findSome? (p.value ∅ before after) =
      ts.findSome? (p.value ∅ before after) := by
  unfold closure
  generalize (ts.head?.map (·.pc)).getD 0 = base
  have hempty : entered before after (.empty base) = ∅ := by
    ext x
    simp [entered]
  rw [findSome?_settle, hempty]
  have hle : unseen p (.empty base) ≤ p.size := unseen_le
  unfold load
  omega

end Settle

section Search

variable {best : Option Trail}

theorem value_at_end (hw : p.waits (holdsAt before []) t.pc = true) (ha : p.isAccept t.pc = false) :
    p.value ∅ before [] t = none := by
  rw [value_of_waits (Set.notMem_empty _) nofun hw ha, readOn, best_nil]
  rfl

theorem value_of_read {b : UInt8} (hw : p.waits (holdsAt before (b :: rest)) t.pc = true)
    (ha : p.isAccept t.pc = false) :
    p.value ∅ before (b :: rest) t = (p.readThread? b t).bind (p.value ∅ (before ++ [b]) rest) := by
  rw [value_of_waits (Set.notMem_empty _) nofun hw ha, readOn_cons, readThread?_eq]
  cases p.read? b t.pc with
  | none =>
    rw [Option.map_none, Option.toList_none, best_nil]
    rfl
  | some next => rfl

theorem findSome?_readThreads {b : UInt8}
    (hall : ∀ t ∈ ts, p.waits (holdsAt before (b :: rest)) t.pc = true ∧
    p.isAccept t.pc = false) : ts.findSome? (p.value ∅ before (b :: rest)) =
      (ts.filterMap (p.readThread? b)).findSome? (p.value ∅ (before ++ [b]) rest) := by
  induction ts with
  | nil => rfl
  | cons t ts ih =>
    obtain ⟨⟨hw, ha⟩, hall⟩ := List.forall_mem_cons.mp hall
    rw [List.findSome?_cons, ih hall, value_of_read hw ha]
    cases hu : p.readThread? b t with
    | none => rw [List.filterMap_cons_none hu]; rfl
    | some u => rw [List.filterMap_cons_some hu, List.findSome?_cons]; rfl

theorem findSome?_cutAtAccept (p : Program) (before after : List UInt8) (ts : List (Thread Trail)) :
    ts.findSome? (p.value ∅ before after) =
        ((p.cutAtAccept ts).1.findSome? (p.value ∅ before after)).or
          ((p.cutAtAccept ts).2.map (·.note)) ∧
      ∀ t ∈ (p.cutAtAccept ts).1, t ∈ ts ∧ p.isAccept t.pc = false := by
  induction ts with
  | nil => exact ⟨rfl, List.forall_mem_nil _⟩
  | cons t ts ih =>
    obtain ⟨heq, hkept⟩ := ih
    rw [cutAtAccept, isAcceptThread_eq, List.findSome?_cons]
    cases ha : p.isAccept t.pc with
    | true =>
      rw [if_pos rfl, value_of_isAccept (Set.notMem_empty _) ha]
      exact ⟨rfl, List.forall_mem_nil _⟩
    | false =>
      rw [if_neg (by simp), heq, List.findSome?_cons]
      refine ⟨by cases p.value ∅ before after t <;> rfl, ?_⟩
      refine List.forall_mem_cons.mpr ⟨⟨List.mem_cons_self, ha⟩, fun u hu => ?_⟩
      obtain ⟨hmem, hu⟩ := hkept u hu
      exact ⟨List.mem_cons_of_mem _ hmem, hu⟩

/-- Arriving at a place leaves threads that wait there for a byte. What they come to, and behind
them the best match so far, is what came before and what comes of a thread that starts here while
there is no match. -/
theorem arrive_spec {kept : List (Thread Trail)} {best' : Option Trail}
    (h : p.arrive before.reverse after best ts = (kept, best')) :
    (∀ later, (kept.findSome? (p.value ∅ before after)).or (best'.or later) =
        (ts.findSome? (p.value ∅ before after)).or
          (best.or ((p.value ∅ before after ⟨0, []⟩).or later))) ∧
      ∀ t ∈ kept, p.waits (holdsAt before after) t.pc = true ∧ p.isAccept t.pc = false := by
  obtain ⟨us, hus⟩ : ∃ us, us = if best.isNone then ts ++ [⟨0, []⟩] else ts := ⟨_, rfl⟩
  have harrive : p.arrive before.reverse after best ts =
      ((p.cutAtAccept (closure p (holdsAt before after) List.cons us)).1,
        ((p.cutAtAccept (closure p (holdsAt before after) List.cons us)).2.map (·.note)).orElse
          fun _ => best) := by
    rw [hus]
    rfl
  rw [h] at harrive
  obtain ⟨rfl, rfl⟩ := Prod.mk.inj harrive
  have hvalue : us.findSome? (p.value ∅ before after) = (ts.findSome? (p.value ∅ before after)).or
      (if best.isNone then p.value ∅ before after ⟨0, []⟩ else none) := by
    rw [hus]
    split
    · rw [List.findSome?_append, List.findSome?_singleton]
    · exact Option.or_none.symm
  obtain ⟨hcut, hkept⟩ :=
    p.findSome?_cutAtAccept before after (closure p (holdsAt before after) List.cons us)
  rw [findSome?_closure, hvalue] at hcut
  refine ⟨fun later => ?_, fun t ht => ?_⟩
  · rw [Option.orElse_eq_or, ← Option.or_assoc, ← Option.or_assoc, ← hcut]
    cases best with
    | none => simp [Option.or_assoc]
    | some trail => simp
  · exact ⟨(mem_map_closure.mp (List.mem_map_of_mem (hkept t ht).1)).1, (hkept t ht).2⟩

theorem map_best_openings (b : UInt8) : (p.best ∅ (openings before (b :: rest))).map p.notes =
    (p.value ∅ before (b :: rest) ⟨0, []⟩).or
      ((p.best ∅ (openings (before ++ [b]) rest)).map p.notes) := by
  rw [openings, ← List.singleton_append, best_append, value]
  cases p.best ∅ [⟨0, before, b :: rest⟩] <;> simp

theorem matchFrom_eq : p.matchFrom before.reverse best ts rest =
    (ts.findSome? (p.value ∅ before rest)).or
      (best.or ((p.best ∅ (openings before rest)).map p.notes)) := by
  induction rest generalizing before best ts with
  | nil =>
    obtain ⟨kept, best', harrive⟩ :
        ∃ kept best', p.arrive before.reverse [] best ts = (kept, best') := ⟨_, _, rfl⟩
    obtain ⟨heq, hkept⟩ := arrive_spec harrive
    have hnone : kept.findSome? (p.value ∅ before []) = none :=
      List.findSome?_eq_none_iff.mpr fun t ht => value_at_end (hkept t ht).1 (hkept t ht).2
    have hstart : (p.best ∅ (openings before [])).map p.notes = p.value ∅ before [] ⟨0, []⟩ := by
      simp [openings, value]
    have hend := heq none
    rw [hnone, Option.none_or, Option.or_none, Option.or_none] at hend
    rw [matchFrom, harrive, hend, hstart]
  | cons b rest ih =>
    obtain ⟨kept, best', harrive⟩ :
        ∃ kept best', p.arrive before.reverse (b :: rest) best ts = (kept, best') :=
      ⟨_, _, rfl⟩
    obtain ⟨heq, hkept⟩ := arrive_spec harrive
    have hlater : p.matchFrom (before ++ [b]).reverse best' (kept.filterMap (p.readThread? b))
        rest = _ := ih
    have hstep := heq ((p.best ∅ (openings (before ++ [b]) rest)).map p.notes)
    rw [findSome?_readThreads hkept] at hstep
    rw [List.reverse_append] at hlater
    rw [matchFrom, map_best_openings, harrive, ← hstep]
    dsimp only
    split
    · next hdone =>
      -- nothing is left to wait for, so what was found stays
      obtain ⟨hempty, hsome⟩ := hdone
      obtain ⟨trail, rfl⟩ := Option.isSome_iff_exists.mp hsome
      rw [List.isEmpty_iff.mp hempty]
      rfl
    · exact hlater

/-- The search for a preferred match finds the groups that the leftmost-first route leaves. -/
theorem preferredMatch_eq_best (p : Program) (bytes : List UInt8) :
    p.preferredMatch bytes = (p.best ∅ (openings [] bytes)).map p.notes := by
  have heq : p.matchFrom ([] : List UInt8).reverse none [] bytes = _ := matchFrom_eq
  rwa [List.reverse_nil, List.findSome?_nil, Option.none_or, Option.none_or] at heq

theorem preferredMatch_eq_some_iff {bytes : List UInt8} {trail : Trail} :
    p.preferredMatch bytes = some trail ↔
    ∃ route, p.LeftmostFirst bytes route ∧ p.notes route = trail := by
  rw [preferredMatch_eq_best, Option.map_eq_some_iff]
  simp only [best_openings_iff]

end Search

end Keypad.Automaton.Program
