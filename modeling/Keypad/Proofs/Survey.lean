import Keypad.Proofs.Alike
/-!
The survey of a program's states. When no limit is broken the survey has counted every state that is
reached, so the count bounds any later search. The rows that have been counted are kept here as a
list beside the set of their keys.
-/
namespace List

variable {α : Type} [BEq α] [LawfulBEq α] {x : α}

theorem mem_eraseRepsBy_loop (a : α) (l acc : List α) :
    x ∈ eraseRepsBy.loop (· == ·) a l acc ↔ x = a ∨ x ∈ l ∨ x ∈ acc := by
  induction l generalizing a acc with
  | nil => simp [eraseRepsBy.loop, or_comm]
  | cons b l ih =>
    rw [eraseRepsBy.loop]
    split
    · next h =>
      rw [ih, mem_cons, ← eq_of_beq h]
      tauto
    · rw [ih, mem_cons, mem_cons]
      tauto

@[simp] theorem mem_eraseReps {l : List α} : x ∈ l.eraseReps ↔ x ∈ l := by
  cases l with
  | nil => rfl
  | cons a l => simp [eraseReps, eraseRepsBy, mem_eraseRepsBy_loop]

end List

namespace Keypad.Automaton

open Keypad.Pattern

namespace Row

variable {r t : Row}

@[simp] theorem key_inj : r.key = t.key ↔ r = t := by
  cases r with | mk e s
  cases t with | mk e' s'
  rw [key, key, List.cons.injEq, Subset.key_inj, mk.injEq]
  cases e <;> cases e' <;> simp

theorem isDead_of_subset (h : r.isDead = true) : r.subset.dead = true := by
  rw [isDead, Bool.and_eq_true] at h
  exact h.2

end Row

namespace Survey

variable {engine : Engine} {p : Program} {limits : Limits} {stride : Nat} {s s' : Survey}
  {rows : List Row} {r : Row}

structure Affordable (engine : Engine) (p : Program) (limits : Limits) (stride : Nat)
    (t : Tally) : Prop where
  table : ∀ n ∈ limits.size, engine.table p stride t ≤ n
  work : ∀ n ∈ limits.determinize, engine.work p t ≤ n

theorem affordable_iff {t : Tally} : Affordable engine p limits stride t ↔
    (∀ n ∈ limits.size, engine.table p stride t ≤ n) ∧
      ∀ n ∈ limits.determinize, engine.work p t ≤ n :=
  ⟨fun h => ⟨h.table, h.work⟩, fun h => ⟨h.1, h.2⟩⟩

instance (t : Tally) : Decidable (Affordable engine p limits stride t) :=
  decidable_of_iff _ affordable_iff.symm

@[simp] theorem broken?_eq_none_iff {t : Tally} :
    engine.broken? p limits stride t = none ↔ Affordable engine p limits stride t := by
  have hsize := @Limits.broken?_eq_none_iff limits.size (engine.table p stride t)
  have hwork := @Limits.broken?_eq_none_iff limits.determinize (engine.work p t)
  rw [Engine.broken?]
  split
  · next n hn =>
    refine iff_of_false (Option.some_ne_none _) fun h => ?_
    rw [hsize.mpr h.table] at hn
    cases hn
  · next hn =>
    rw [Option.map_eq_none_iff, hwork]
    exact ⟨fun h => ⟨hsize.mp hn, h⟩, fun h => h.work⟩

/-- The rows counted so far: each once, with their keys, their number and their descriptions. -/
structure Counts (engine : Engine) (p : Program) (limits : Limits) (stride : Nat) (s : Survey)
    (rows : List Row) : Prop where
  nodup : rows.Nodup
  seen : ∀ r, s.seen.contains r.key = true ↔ r ∈ rows
  length : rows.length = s.tally.states
  stored : (rows.map engine.describe).sum = s.tally.stored
  affordable : s.tally.states = 0 ∨ Affordable engine p limits stride s.tally

theorem Counts.empty : Counts engine p limits stride Survey.empty [] where
  nodup := List.nodup_nil
  seen := by simp [Survey.empty]
  length := rfl
  stored := rfl
  affordable := Or.inl rfl

theorem visit_cases (h : s.visit engine p limits stride r = .ok s')
    (hc : Counts engine p limits stride s rows) :
    ((r.isDead = true ∨ r ∈ rows) ∧ s' = s) ∨
      (s'.pending = r :: s.pending ∧ r ∉ rows ∧
        Counts engine p limits stride s' (r :: rows)) := by
  rw [visit] at h
  split at h
  · next hold =>
    rw [Bool.or_eq_true, hc.seen] at hold
    exact Or.inl ⟨hold, (Except.ok.inj h).symm⟩
  · next hnew =>
    rw [Bool.or_eq_true, hc.seen, not_or] at hnew
    dsimp only at h
    split at h
    · cases h
    · next hroom =>
      obtain rfl := Except.ok.inj h
      refine Or.inr ⟨rfl, hnew.2, List.nodup_cons.mpr ⟨hnew.2, hc.nodup⟩, ?_, ?_, ?_,
        Or.inr (broken?_eq_none_iff.mp hroom)⟩
      · intro t
        rw [Std.HashSet.contains_insert, Bool.or_eq_true, hc.seen, List.mem_cons, beq_iff_eq,
          Row.key_inj]
        exact or_congr_left eq_comm
      · simp [Tally.add, hc.length]
      · simp [Tally.add, hc.stored, Nat.add_comm]

theorem visitAll_cons_eq_ok {new : List Row} :
    visitAll engine p limits stride s (r :: new) = .ok s' ↔
    ∃ t, s.visit engine p limits stride r = .ok t ∧
      visitAll engine p limits stride t new = .ok s' := by
  rw [visitAll]
  cases s.visit engine p limits stride r <;> simp

theorem visitAll_cases {new : List Row} (h : visitAll engine p limits stride s new = .ok s')
    (hc : Counts engine p limits stride s rows) :
    ∃ fresh, s'.pending = fresh ++ s.pending ∧ Counts engine p limits stride s' (fresh ++ rows) ∧
      fresh ⊆ new ∧ ∀ r ∈ new, r.isDead = true ∨ r ∈ fresh ++ rows := by
  induction new generalizing s rows with
  | nil =>
    obtain rfl := Except.ok.inj h
    exact ⟨[], rfl, hc, by simp, by simp⟩
  | cons r new ih =>
    obtain ⟨t, hv, hrest⟩ := visitAll_cons_eq_ok.mp h
    rcases visit_cases hv hc with ⟨hold, rfl⟩ | ⟨hpending, -, hcount⟩
    · obtain ⟨fresh, hp, hcounts, hsub, hall⟩ := ih hrest hc
      refine ⟨fresh, hp, hcounts, fun t ht => List.mem_cons_of_mem _ (hsub ht), ?_⟩
      intro t ht
      rcases List.mem_cons.mp ht with rfl | ht
      · exact hold.imp_right (List.mem_append_right _)
      · exact hall t ht
    · obtain ⟨fresh, hp, hcounts, hsub, hall⟩ := ih hrest hcount
      refine ⟨fresh ++ [r], by simp [hp, hpending], by simpa using hcounts, ?_, ?_⟩
      · intro t ht
        rcases List.mem_append.mp ht with ht | ht
        · exact List.mem_cons_of_mem _ (hsub ht)
        · exact List.mem_singleton.mp ht ▸ List.mem_cons_self
      · intro t ht
        rcases List.mem_cons.mp ht with rfl | ht
        · exact Or.inr (by simp)
        · exact (hall t ht).imp_right fun h => by simpa using h

structure Progress (engine : Engine) (p : Program) (limits : Limits) (s : Survey)
    (rows : List Row) : Prop where
  counts : Counts engine p limits (Program.stride p.letters) s rows
  starts : ∀ r ∈ p.starts, r.isDead = true ∨ r ∈ rows
  pending : s.pending ⊆ rows
  followed : ∀ r ∈ rows, r ∈ s.pending ∨ ∀ t ∈ p.successors p.letters r, t.isDead = true ∨ t ∈ rows
  reached : ∀ P : Row → Prop,
    (∀ r ∈ p.starts, P r) → (∀ r, P r → ∀ t ∈ p.successors p.letters r, P t) →
    ∀ r ∈ rows, P r

end Survey

namespace Program

open Survey

variable {engine : Engine} {p : Program} {limits : Limits} {s s' : Survey} {rows : List Row}

section Inversion

variable {letters : List UInt8} {n : Nat} {tally : Tally}

theorem follow_of_done (h : s.pending = []) (fuel : Nat) :
    p.follow engine limits letters n fuel s = .ok s := by
  cases fuel with
  | zero => rfl
  | succ fuel => rw [follow, h]

theorem follow_succ_eq_ok {fuel : Nat} {r : Row} {rest : List Row} (h : s.pending = r :: rest) :
    p.follow engine limits letters n (fuel + 1) s = .ok s' ↔
      ∃ t, visitAll engine p limits n { s with pending := rest } (p.successors letters r) = .ok t ∧
        p.follow engine limits letters n fuel t = .ok s' := by
  rw [follow, h]
  dsimp only
  cases visitAll engine p limits n { s with pending := rest } (p.successors letters r) <;> simp

theorem survey_eq_ok : p.survey engine limits = .ok tally ↔
    ∃ s s', visitAll engine p limits (stride p.letters) Survey.empty p.starts = .ok s ∧
      p.follow engine limits p.letters (stride p.letters) (p.surveyBound limits) s = .ok s' ∧
      s'.tally = tally := by
  simp only [survey, bind, Except.bind, pure, Except.pure]
  cases visitAll engine p limits (stride p.letters) Survey.empty p.starts with
  | error e => simp
  | ok s =>
    simp only [Except.ok.injEq, exists_and_left, exists_eq_left']
    cases p.follow engine limits p.letters (stride p.letters) (p.surveyBound limits) s <;> simp

end Inversion

theorem step_mem_successors {b : UInt8} (hb : b ∈ p.letters) (r : Row) :
    ∃ t ∈ p.successors p.letters r, t.subset = p.step r.subset b := by
  refine ⟨(p.move r.subset b).row p, ?_, rfl⟩
  refine List.mem_append_left _ (List.mem_map_of_mem ?_)
  exact List.mem_eraseReps.mpr (List.mem_map_of_mem hb)

theorem progress_followed {r : Row} {rest : List Row} {t : Survey}
    (hp : Progress engine p limits s rows) (hpending : s.pending = r :: rest)
    (hv : visitAll engine p limits (stride p.letters) { s with pending := rest }
      (p.successors p.letters r) = .ok t) :
    ∃ fresh, t.pending = fresh ++ rest ∧ Progress engine p limits t (fresh ++ rows) := by
  have hcounts : Counts engine p limits (stride p.letters) { s with pending := rest } rows :=
    ⟨hp.counts.nodup, hp.counts.seen, hp.counts.length, hp.counts.stored, hp.counts.affordable⟩
  obtain ⟨fresh, hpend, hcount, hsub, hall⟩ := visitAll_cases hv hcounts
  have hr : r ∈ rows := hp.pending (hpending ▸ List.mem_cons_self)
  have hrest : rest ⊆ rows := fun t ht => hp.pending (hpending ▸ List.mem_cons_of_mem _ ht)
  refine ⟨fresh, hpend, hcount, ?_, ?_, ?_, ?_⟩
  · exact fun t ht => (hp.starts t ht).imp_right (List.mem_append_right _)
  · rw [hpend]
    exact List.append_subset.mpr ⟨List.subset_append_left _ _,
      fun t ht => List.mem_append_right _ (hrest ht)⟩
  · intro t ht
    rcases List.mem_append.mp ht with ht | ht
    · exact Or.inl (hpend ▸ List.mem_append_left _ ht)
    · rcases hp.followed t ht with ht | ht
      · rw [hpending] at ht
        rcases List.mem_cons.mp ht with rfl | ht
        · exact Or.inr hall
        · exact Or.inl (hpend ▸ List.mem_append_right _ ht)
      · exact Or.inr fun u hu => (ht u hu).imp_right (List.mem_append_right _)
  · intro P hstarts hsuccessors t ht
    have hrows := hp.reached P hstarts hsuccessors
    rcases List.mem_append.mp ht with ht | ht
    · exact hsuccessors r (hrows r hr) t (hsub ht)
    · exact hrows t ht

theorem follow_cases {bound : Nat} (fuel popped : Nat)
    (h : p.follow engine limits p.letters (stride p.letters) fuel s = .ok s')
    (hp : Progress engine p limits s rows) (hpopped : rows.length = popped + s.pending.length)
    (hbound : ∀ s rows, Progress engine p limits s rows → rows.length ≤ bound)
    (hfuel : bound = popped + fuel) :
    ∃ rows', Progress engine p limits s' rows' ∧ s'.pending = [] := by
  induction fuel generalizing s rows popped with
  | zero =>
    obtain rfl := Except.ok.inj h
    have hle := hbound s rows hp
    exact ⟨rows, hp, List.eq_nil_of_length_eq_zero (by omega)⟩
  | succ fuel ih =>
    cases hpending : s.pending with
    | nil =>
      obtain rfl := Except.ok.inj ((follow_of_done hpending _).symm.trans h)
      exact ⟨rows, hp, hpending⟩
    | cons r rest =>
      obtain ⟨t, hv, h⟩ := (follow_succ_eq_ok hpending).mp h
      obtain ⟨fresh, hpend, hp'⟩ := progress_followed hp hpending hv
      refine ih (popped + 1) h hp' ?_ (by omega)
      rw [hpending] at hpopped
      rw [hpend]
      simp only [List.length_append, List.length_cons] at hpopped ⊢
      omega

def Fits (p : Program) (r : Row) : Prop := r.subset.items.Nodup ∧ ∀ n ∈ r.subset.items, n < p.size

theorem fits_subsetAt (e : Edge) (ended : Bool) (pcs : List Nat) :
    p.Fits ⟨ended, p.subsetAt e pcs⟩ :=
  ⟨nodup_waiting, fun _ hn => lt_size_of_waits (mem_waiting.mp hn).1⟩

theorem fits_of_progress (h : Progress engine p limits s rows) : ∀ r ∈ rows, p.Fits r := by
  refine h.reached p.Fits (fun r hr => ?_) fun _ _ r hr => ?_
  · obtain ⟨e, -, rfl⟩ := List.mem_map.mp hr
    exact fits_subsetAt e false [0]
  · rcases List.mem_append.mp hr with hr | hr
    · obtain ⟨m, -, rfl⟩ := List.mem_map.mp hr
      exact fits_subsetAt m.edge m.ended m.targets
    · obtain rfl := List.mem_singleton.mp hr
      exact ⟨List.nodup_nil, by simp⟩

theorem Fits.length_le {r : Row} (h : p.Fits r) : r.subset.items.length ≤ p.size := by
  have hsub : r.subset.items ⊆ List.range p.size := fun n hn => List.mem_range.mpr (h.2 n hn)
  simpa using (List.subperm_of_subset h.1 hsub).length_le

def digits (p : Program) (r : Row) : Bool × Fin 5 × (Fin (p.size + 1) → Fin (p.size + 2)) :=
  (r.ended, Fin.ofNat 5 r.subset.before.code,
    fun i => Fin.ofNat (p.size + 2) ((r.subset.items[i.val]?.map (· + 1)).getD 0))

theorem Fits.digit_eq {r : Row} (h : p.Fits r) (i : Nat) :
    (r.subset.items[i]?.map (· + 1)).getD 0 % (p.size + 2) =
      (r.subset.items[i]?.map (· + 1)).getD 0 := by
  cases hi : r.subset.items[i]? with
  | none => rfl
  | some n =>
    have hlt := h.2 n (List.mem_of_getElem? hi)
    exact Nat.mod_eq_of_lt (by simp; omega)

theorem digits_inj {r t : Row} (hr : p.Fits r) (ht : p.Fits t) (h : p.digits r = p.digits t) :
    r = t := by
  simp only [digits, Prod.mk.injEq, funext_iff] at h
  obtain ⟨hended, hcode, hitems⟩ := h
  have hlt : ∀ e : Edge, e.code < 5 := fun e => by cases e <;> decide
  have hbefore : r.subset.before = t.subset.before := by
    rw [Fin.ext_iff, Fin.val_ofNat, Fin.val_ofNat, Nat.mod_eq_of_lt (hlt _),
      Nat.mod_eq_of_lt (hlt _)] at hcode
    exact Edge.code_inj.mp hcode
  have hall : r.subset.items = t.subset.items := by
    refine List.ext_getElem? fun i => ?_
    by_cases hi : i < p.size + 1
    · have hdigit := hitems ⟨i, hi⟩
      rw [Fin.ext_iff, Fin.val_ofNat, Fin.val_ofNat, hr.digit_eq, ht.digit_eq] at hdigit
      revert hdigit
      cases r.subset.items[i]? <;> cases t.subset.items[i]? <;> simp
    · have hrl := hr.length_le
      have htl := ht.length_le
      rw [List.getElem?_eq_none (by omega), List.getElem?_eq_none (by omega)]
  cases r with | mk e s
  cases t with | mk e' s'
  cases s
  cases s'
  simp_all

theorem length_le_stateBound (hnodup : rows.Nodup) (hfits : ∀ r ∈ rows, p.Fits r) :
    rows.length ≤ p.stateBound := by
  have hmap : (rows.map p.digits).Nodup :=
    (List.nodup_map_iff_inj_on hnodup).mpr fun r hr t ht h => digits_inj (hfits r hr) (hfits t ht) h
  have hcard := hmap.length_le_card
  rw [List.length_map] at hcard
  refine hcard.trans (le_of_eq ?_)
  simp only [Fintype.card_prod, Fintype.card_bool, Fintype.card_fin, Fintype.card_fun,
    stateBound, Nat.pow_eq]
  ring

/-- The survey never counts more rows than it has steps for. -/
theorem length_le_surveyBound (h : Progress engine p limits s rows) :
    rows.length ≤ p.surveyBound limits := by
  have hlength := h.counts.length
  rw [surveyBound]
  split
  · next _ _ n hsize =>
    rcases h.counts.affordable with hzero | hafford
    · omega
    · have hcost := engine.states_le_table p (stride p.letters) s.tally
      have hle := hafford.table n (by simp [hsize])
      omega
  · next n hsize hwork =>
    rcases h.counts.affordable with hzero | hafford
    · omega
    · have hcost := engine.states_le_work p s.tally
      have hle := hafford.work n (by simp [hwork])
      omega
  · exact length_le_stateBound h.counts.nodup (fits_of_progress h)

theorem exists_progress_of_survey {tally : Tally} (h : p.survey engine limits = .ok tally) :
    ∃ s s' rows, visitAll engine p limits (stride p.letters) Survey.empty p.starts = .ok s ∧
      p.follow engine limits p.letters (stride p.letters) (p.surveyBound limits) s = .ok s' ∧
      s'.tally = tally ∧ s'.pending = [] ∧ Progress engine p limits s' rows := by
  obtain ⟨s, s', hv, hf, htally⟩ := survey_eq_ok.mp h
  obtain ⟨fresh, hpend, hcounts, hsub, hall⟩ := visitAll_cases hv .empty
  simp only [Survey.empty, List.append_nil] at hpend hcounts hall
  have hinit : Progress engine p limits s fresh :=
    ⟨hcounts, hall, by simp [hpend], fun r hr => Or.inl (hpend ▸ hr),
      fun P hP _ r hr => hP r (hsub hr)⟩
  obtain ⟨rows, hp, hdone⟩ := follow_cases (p.surveyBound limits) 0 hf hinit (by simp [hpend])
    (fun _ _ => length_le_surveyBound) (by simp)
  exact ⟨s, s', rows, hv, hf, htally, hdone, hp⟩

/-- A survey that breaks no limit has counted every row that is reached. -/
theorem exists_rows_of_survey {tally : Tally} (h : p.survey engine limits = .ok tally) :
    ∃ rows : List Row, rows.length = tally.states ∧
      (∀ r ∈ p.starts, r.isDead = true ∨ r ∈ rows) ∧
      ∀ r ∈ rows, ∀ t ∈ p.successors p.letters r, t.isDead = true ∨ t ∈ rows := by
  obtain ⟨s, s', rows, -, -, rfl, hdone, hp⟩ := exists_progress_of_survey h
  refine ⟨rows, hp.counts.length, hp.starts, fun r hr => (hp.followed r hr).resolve_left ?_⟩
  simp [hdone]

end Program

end Keypad.Automaton
