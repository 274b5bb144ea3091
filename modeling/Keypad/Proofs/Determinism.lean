import Keypad.Proofs.Recognition
/-!
The deterministic reading of a program. After a text its state holds the instructions where threads
wait in front of the first condition, and once the next byte or the end is known it holds those
where threads wait behind all conditions; so it accepts what some thread accepts.
-/
namespace Keypad.Automaton.Program

open Keypad.Pattern Relation

variable {p : Program} {passes : Look → Bool}

def Ready (p : Program) (w : Nat) : Prop := ∀ passes, p.waits passes w = true

theorem ready_of_isAccept {w : Nat} (h : p.isAccept w = true) : p.Ready w := by
  intro passes
  simp [waits, isAccept_iff.mp h, Instr.waits]

theorem ready_of_read? {w v : Nat} {b : UInt8} (h : p.read? b w = some v) : p.Ready w := by
  intro passes
  unfold read? at h
  split at h
  · next hi => simp [waits, hi, Instr.waits]
  · cases h

theorem branches_none_subset (v : Nat) :
    ∀ w ∈ p.branches (fun _ => false) v, w ∈ p.branches passes v := by
  unfold branches
  cases p.at? v with
  | none => simp
  | some i => cases i <;> simp [Instr.branches]

theorem waits_none_or_branches_eq (v : Nat) :
    p.waits (fun _ => false) v = true ∨
      p.branches (fun _ => false) v = p.branches passes v := by
  unfold waits branches
  cases p.at? v with
  | none => simp
  | some i => cases i <;> simp [Instr.branches, Instr.waits]

theorem Silent.of_none {v w : Nat} (h : p.Silent (fun _ => false) v w) : p.Silent passes v w :=
  ReflTransGen.mono branches_none_subset _ _ h

theorem Silent.stopover {v w : Nat} (h : p.Silent passes v w) (hw : p.Ready w) :
    ∃ u, p.waits (fun _ => false) u = true ∧ p.Silent (fun _ => false) v u ∧
      p.Silent passes u w := by
  induction h using ReflTransGen.head_induction_on with
  | refl => exact ⟨w, hw _, .refl, .refl⟩
  | @head v x hvx hxw ih =>
    have hor : p.waits (fun _ => false) v = true ∨
        p.branches (fun _ => false) v = p.branches passes v := waits_none_or_branches_eq v
    rcases hor with hv | hv
    · exact ⟨v, hv, .refl, .head hvx hxw⟩
    · obtain ⟨u, hu, hxu, huw⟩ := ih
      exact ⟨u, hu, .head (hv ▸ hvx) hxu, huw⟩

theorem mem_resolved_subsetAt {e after : Edge} {pcs : List Nat} {w : Nat} (hw : p.Ready w) :
    w ∈ p.resolved (p.subsetAt e pcs) after ↔ ∃ v ∈ pcs, p.Silent (Look.holds e after) v w := by
  have hitems : (p.subsetAt e pcs).items = p.waiting (fun _ => false) pcs := rfl
  have hsplit : (∃ v ∈ pcs, p.Silent (Look.holds e after) v w) ↔
      ∃ u ∈ p.waiting (fun _ => false) pcs, p.Silent (Look.holds e after) u w := by
    simp only [mem_waiting]
    constructor
    · rintro ⟨v, hv, h⟩
      obtain ⟨u, hu, hvu, huw⟩ := h.stopover hw
      exact ⟨u, ⟨hu, v, hv, hvu⟩, huw⟩
    · rintro ⟨u, ⟨-, v, hv, hvu⟩, huw⟩
      exact ⟨v, hv, hvu.of_none.trans huw⟩
  rw [hsplit, resolved, hitems]
  split
  · next hlook =>
    have hbefore : (p.subsetAt e pcs).before = e := by
      simp only [subsetAt]
      rw [if_pos hlook]
    rw [mem_waiting, hbefore, and_iff_right (hw _)]
  · next hlook =>
    -- no condition is waited at, so a thread is ready where it waits
    constructor
    · intro h
      exact ⟨w, h, .refl⟩
    · rintro ⟨u, hu, huw⟩
      have hwait : p.waits (Look.holds e after) u = true := by
        have hu' := (mem_waiting.mp hu).1
        simp only [Bool.not_eq_true, List.any_eq_false] at hlook
        have hl := hlook u hu
        unfold waits at hu' ⊢
        unfold isLook at hl
        cases hi : p.at? u with
        | none => simp [hi] at hu'
        | some i => cases i <;> simp_all [Instr.waits]
      rw [silent_of_waits hwait huw]
      exact hu

/-- A thread comes to an instruction by reading the last byte of a text from its start. -/
inductive Lands (p : Program) : List UInt8 → Nat → Prop
  | start : Lands p [] 0
  | read {text : List UInt8} {b : UInt8} {u w v : Nat} (h : Lands p text u)
      (hs : p.Silent (passesAt text [b]) u w) (hr : p.read? b w = some v) :
      Lands p (text ++ [b]) v

theorem Silent.runs {before : List UInt8} {v w : Nat} (after : List UInt8)
    (h : p.Silent (passesAt before after) v w) : ∃ n, p.Runs passesAt n v before [] after w := by
  induction h using ReflTransGen.head_induction_on with
  | refl => exact ⟨0, .stay⟩
  | head hvx _ ih =>
    obtain ⟨n, r⟩ := ih
    exact ⟨n + 1, .skip hvx r⟩

theorem Lands.runs {text : List UInt8} {v : Nat} (h : p.Lands text v) (after : List UInt8) :
    ∃ n, p.Runs passesAt n 0 [] text after v := by
  induction h generalizing after with
  | start => exact ⟨0, .stay⟩
  | @read text b u w v _ hs hr ih =>
    obtain ⟨n, r⟩ := ih (b :: after)
    obtain ⟨m, r'⟩ := Silent.runs (b :: after) hs
    have r'' : p.Runs passesAt 1 w (text ++ []) [b] after v := .read hr .stay
    have hend : p.Runs passesAt (m + 1) u text [b] after v := r'.append r''
    exact ⟨n + (m + 1), r.append hend⟩

theorem Lands.extend {n v x : Nat} {before word after : List UInt8}
    (r : p.Runs passesAt n v before word after x) {u : Nat} (hu : p.Lands before u)
    (hs : p.Silent (passesAt before (word ++ after)) u v) :
    ∃ w, p.Lands (before ++ word) w ∧ p.Silent (passesAt (before ++ word) after) w x := by
  induction r generalizing u with
  | stay => exact ⟨u, by simpa using hu, by simpa using hs⟩
  | skip hb _ ih => exact ih hu (hs.tail hb)
  | @read n v w x before word after b hb _ ih =>
    obtain ⟨y, hy, hyx⟩ := ih (hu.read hs hb) .refl
    exact ⟨y, by simpa using hy, by simpa using hyx⟩

theorem runs_iff_lands {text after : List UInt8} {x : Nat} :
    (∃ n, p.Runs passesAt n 0 [] text after x) ↔
    ∃ v, p.Lands text v ∧ p.Silent (passesAt text after) v x := by
  constructor
  · rintro ⟨n, r⟩
    exact Lands.extend r .start .refl
  · rintro ⟨v, hv, hs⟩
    obtain ⟨n, r⟩ := hv.runs after
    obtain ⟨m, r'⟩ := Silent.runs after hs
    have hall : p.Runs passesAt (n + m) 0 [] (text ++ []) after x := r.append r'
    exact ⟨n + m, by simpa using hall⟩

def stateAfter (p : Program) (text : List UInt8) : Subset := text.foldl p.step (p.start .none)

theorem stateAfter_append (text : List UInt8) (b : UInt8) :
    p.stateAfter (text ++ [b]) = p.step (p.stateAfter text) b := by
  simp [stateAfter]

theorem exists_stateAfter_eq (p : Program) (text : List UInt8) :
    ∃ pcs, p.stateAfter text = p.subsetAt (Edge.ofByte? text.getLast?) pcs ∧
      ∀ v, v ∈ pcs ↔ p.Lands text v := by
  induction text using List.reverseRecOn with
  | nil =>
    refine ⟨[0], rfl, fun v => ?_⟩
    rw [List.mem_singleton]
    constructor
    · rintro rfl
      exact .start
    · intro h
      generalize ht : ([] : List UInt8) = text at h
      cases h with
      | start => rfl
      | read => simp at ht
  | append_singleton text b ih =>
    obtain ⟨pcs, hstate, hpcs⟩ := ih
    refine ⟨(p.resolved (p.stateAfter text) (Edge.ofByte b)).filterMap (p.read? b), ?_, fun v => ?_⟩
    · rw [stateAfter_append, List.getLast?_concat]
      rfl
    · rw [List.mem_filterMap]
      constructor
      · rintro ⟨w, hw, hr⟩
        rw [hstate, mem_resolved_subsetAt (ready_of_read? hr)] at hw
        obtain ⟨u, hu, hs⟩ := hw
        exact .read ((hpcs u).mp hu) hs hr
      · intro h
        generalize ht : text ++ [b] = text' at h
        cases h with
        | start => simp at ht
        | read hu hs hr =>
          obtain ⟨rfl, rfl⟩ : text = _ ∧ b = _ := by simpa using ht
          refine ⟨_, ?_, hr⟩
          rw [hstate, mem_resolved_subsetAt (ready_of_read? hr)]
          exact ⟨_, (hpcs _).mpr hu, hs⟩

theorem accepts_stateAfter {text : List UInt8} : p.accepts (p.stateAfter text) = true ↔
    ∃ n pc, p.Runs passesAt n 0 [] text [] pc ∧ p.isAccept pc = true := by
  obtain ⟨pcs, hstate, hpcs⟩ := exists_stateAfter_eq p text
  rw [accepts, List.any_eq_true, hstate]
  constructor
  · rintro ⟨w, hw, ha⟩
    rw [mem_resolved_subsetAt (ready_of_isAccept ha)] at hw
    obtain ⟨v, hv, hs⟩ := hw
    have hend : p.Silent (passesAt text []) v w := hs
    obtain ⟨n, r⟩ := runs_iff_lands.mpr ⟨v, (hpcs v).mp hv, hend⟩
    exact ⟨n, w, r, ha⟩
  · rintro ⟨n, w, r, ha⟩
    obtain ⟨v, hv, hs⟩ := runs_iff_lands.mp ⟨n, r⟩
    exact ⟨w, (mem_resolved_subsetAt (ready_of_isAccept ha)).mpr ⟨v, (hpcs v).mpr hv, hs⟩, ha⟩

/-- The deterministic reading of the program of a form accepts the language of the form. -/
theorem accepts_stateAfter_ofForm {f : Form} (hf : f.Regular) {text : List UInt8} :
    (ofForm f).accepts ((ofForm f).stateAfter text) = true ↔ f.Language text := by
  rw [accepts_stateAfter, runs_ofForm hf, f.matchesUnder_passesAt]
  rfl

@[simp] theorem waiting_nil : p.waiting passes [] = [] := by
  apply List.eq_nil_iff_forall_not_mem.mpr
  intro w hw
  obtain ⟨-, v, hv, -⟩ := mem_waiting.mp hw
  cases hv

theorem resolved_of_dead {s : Subset} (h : s.dead = true) (after : Edge) :
    p.resolved s after = [] := by
  have hitems : s.items = [] := by simpa [Subset.dead] using h
  simp [resolved, hitems]

theorem dead_step {s : Subset} (h : s.dead = true) (b : UInt8) : (p.step s b).dead = true := by
  simp [step, resolved_of_dead h, subsetAt, Subset.dead]

theorem accepts_of_dead {s : Subset} (h : s.dead = true) : p.accepts s = false := by
  simp [accepts, resolved_of_dead h]

end Keypad.Automaton.Program
