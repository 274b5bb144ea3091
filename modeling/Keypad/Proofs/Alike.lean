import Keypad.Proofs.Determinism
import Keypad.Proofs.Search
import Keypad.Automaton.Footprint
/-!
Bytes that a program treats alike. The letters of a program hold a byte of every kind, and states
that differ only in an edge that no condition tells apart go on alike, so what can be reached over
bytes can be reached over letters.
-/
namespace Keypad.Pattern.Edge

variable {b : UInt8}

@[simp] theorem ofByte_ne_none : ofByte b ≠ .none := by
  unfold ofByte
  split
  · exact nofun
  split
  · exact nofun
  split <;> exact nofun

theorem ofByte_eq_lineFeed : ofByte b = .lineFeed ↔ b.toNat = 0x0A := by
  rw [show b.toNat = 0x0A ↔ b = 0x0A from UInt8.toNat_inj (b := 0x0A)]
  unfold ofByte
  repeat' split
  all_goals simp_all

theorem ofByte_eq_carriageReturn : ofByte b = .carriageReturn ↔ b.toNat = 0x0D := by
  rw [show b.toNat = 0x0D ↔ b = 0x0D from UInt8.toNat_inj (b := 0x0D)]
  unfold ofByte
  repeat' split
  all_goals simp_all

theorem isWordByte_iff : isWordByte b = true ↔ (0x30 ≤ b.toNat ∧ b.toNat < 0x3A) ∨
    (0x41 ≤ b.toNat ∧ b.toNat < 0x5B) ∨ b.toNat = 0x5F ∨ (0x61 ≤ b.toNat ∧ b.toNat < 0x7B) := by
  have hunder : b = 0x5F ↔ b.toNat = 0x5F := (UInt8.toNat_inj (b := 0x5F)).symm
  simp only [isWordByte, Bool.or_eq_true, Bool.and_eq_true, decide_eq_true_eq, beq_iff_eq, hunder,
    UInt8.le_iff_toNat_le]
  simp only [UInt8.reduceToNat]
  omega

theorem isWord_ofByte : (ofByte b).isWord = isWordByte b := by
  have hline : ∀ c : UInt8, b = c → c.toNat = 0x0A ∨ c.toNat = 0x0D → isWordByte b = false := by
    rintro c rfl hc
    refine Bool.eq_false_iff.mpr fun hword => ?_
    rw [isWordByte_iff] at hword
    omega
  unfold ofByte isWord
  split
  case isTrue h => exact (hline _ h (.inl rfl)).symm
  split
  case isTrue h => exact (hline _ h (.inr rfl)).symm
  split
  case isTrue h => exact h.symm
  case isFalse h => exact (Bool.eq_false_iff.mpr h).symm

@[simp] theorem beq_none : (ofByte b == .none) = false := beq_eq_false_iff_ne.mpr ofByte_ne_none

variable {a : UInt8} (hle : a.toNat ≤ b.toNat)
include hle

theorem beq_lineFeed_congr (hlo : 0x0A ≤ a.toNat ∨ b.toNat < 0x0A)
    (hhi : 0x0B ≤ a.toNat ∨ b.toNat < 0x0B) :
    (ofByte a == .lineFeed) = (ofByte b == .lineFeed) := by
  rw [Bool.eq_iff_iff, beq_iff_eq, beq_iff_eq, ofByte_eq_lineFeed, ofByte_eq_lineFeed]
  omega

theorem beq_carriageReturn_congr (hlo : 0x0D ≤ a.toNat ∨ b.toNat < 0x0D)
    (hhi : 0x0E ≤ a.toNat ∨ b.toNat < 0x0E) :
    (ofByte a == .carriageReturn) = (ofByte b == .carriageReturn) := by
  rw [Bool.eq_iff_iff, beq_iff_eq, beq_iff_eq, ofByte_eq_carriageReturn, ofByte_eq_carriageReturn]
  omega

end Keypad.Pattern.Edge

namespace Keypad.Automaton.Program

open Keypad.Charset Keypad.Pattern

variable {p : Program}

def Looks (p : Program) (l : Look) : Prop := ∃ pc next, p.at? pc = some (.look l next)

theorem mem_looks_of_program {f : Form} {l : Look} (h : (ofForm f).Looks l) : l ∈ f.looks := by
  obtain ⟨pc, next, hat⟩ := h
  have hcommon : Common fun i => ∀ l next, i = .look l next → l ∈ f.looks :=
    ⟨nofun, nofun, nofun, nofun, nofun⟩
  have hcode := hcommon.forall_mem_code (f := f)
    (fun l hl next l' next' heq => (Instr.look.inj heq).1 ▸ hl) 0 (codeSize f)
  have hmem : Instr.look l next ∈ code f 0 (codeSize f) ++ [.accept] := by
    simp only [ofForm, at?, List.getElem?_toArray] at hat
    exact List.mem_of_getElem? hat
  rcases List.mem_append.mp hmem with hmem | hmem
  · exact hcode _ hmem l next rfl
  · cases List.mem_singleton.mp hmem

section Congruence

variable {passes passes' : Look → Bool} (h : ∀ l, p.Looks l → passes l = passes' l)
include h

theorem branches_congr (pc : Nat) : p.branches passes pc = p.branches passes' pc := by
  unfold branches
  cases hi : p.at? pc with
  | none => rfl
  | some i =>
    cases i with
    | look l next => simp [Instr.branches, h l ⟨pc, next, hi⟩]
    | _ => rfl

theorem waits_congr (pc : Nat) : p.waits passes pc = p.waits passes' pc := by
  unfold waits
  cases hi : p.at? pc with
  | none => rfl
  | some i =>
    cases i with
    | look l next => simp [Instr.waits, h l ⟨pc, next, hi⟩]
    | _ => rfl

theorem settle_congr {τ : Type} (onMark : Nat → τ → τ) (fuel : Nat) (seen : Visited)
    (stack : List (Thread τ)) :
    settle p passes onMark fuel seen stack = settle p passes' onMark fuel seen stack := by
  induction fuel generalizing seen stack with
  | zero => rfl
  | succ fuel ih =>
    cases stack with
    | nil => simp
    | cons t stack =>
      cases hs : seen.contains t.pc with
      | true => rw [settle_seen hs, settle_seen hs, ih]
      | false =>
        rw [settle_new hs, settle_new hs, waits_congr h, ih]
        simp only [pushed, branches_congr h]

theorem waiting_congr (pcs : List Nat) : p.waiting passes pcs = p.waiting passes' pcs := by
  simp only [waiting, closure, settle_congr h]

end Congruence

def SameEdge (p : Program) (d e : Edge) : Prop :=
  ∀ l, p.Looks l → ∀ x, l.holds d x = l.holds e x ∧ l.holds x d = l.holds x e

theorem SameEdge.refl (e : Edge) : p.SameEdge e e := fun _ _ _ => ⟨rfl, rfl⟩

def SameState (p : Program) (s t : Subset) : Prop :=
  s.items = t.items ∧ p.SameEdge s.before t.before

theorem SameState.refl (s : Subset) : p.SameState s s := ⟨rfl, .refl _⟩

theorem resolved_congr {s t : Subset} (h : p.SameState s t) {d e : Edge} (he : p.SameEdge d e) :
    p.resolved s d = p.resolved t e := by
  have hpass : ∀ l, p.Looks l → l.holds s.before d = l.holds t.before e := fun l hl => by
    rw [(h.2 l hl d).1, (he l hl _).2]
  rw [resolved, resolved, h.1, waiting_congr hpass]

structure SameByte (p : Program) (a b : UInt8) : Prop where
  read : ∀ pc, p.read? a pc = p.read? b pc
  edge : p.SameEdge (Edge.ofByte a) (Edge.ofByte b)

theorem SameByte.symm {a b : UInt8} (h : p.SameByte a b) : p.SameByte b a :=
  ⟨fun pc => (h.read pc).symm, fun l hl x => ⟨(h.edge l hl x).1.symm, (h.edge l hl x).2.symm⟩⟩

theorem SameState.step {s t : Subset} (h : p.SameState s t) {a b : UInt8} (hab : p.SameByte a b) :
    p.SameState (p.step s a) (p.step t b) := by
  have hread : p.read? a = p.read? b := funext hab.read
  have hsub : ∀ pcs, p.SameState (p.subsetAt (Edge.ofByte a) pcs)
      (p.subsetAt (Edge.ofByte b) pcs) := by
    intro pcs
    refine ⟨rfl, ?_⟩
    simp only [subsetAt]
    split
    · exact hab.edge
    · exact .refl _
  rw [Program.step, Program.step, resolved_congr h hab.edge, hread]
  exact hsub _

theorem step_eq_of_sameState {s t : Subset} (h : p.SameState s t) (b : UInt8) :
    p.step s b = p.step t b := by
  rw [step, step, resolved_congr h (.refl _)]

theorem SameState.accepts {s t : Subset} (h : p.SameState s t) : p.accepts s = p.accepts t := by
  rw [Program.accepts, Program.accepts, resolved_congr h (.refl _)]

section Letters

variable {b : UInt8}

theorem mem_foldl_insert {n : Nat} (ns found : List Nat) :
    n ∈ ns.foldl (fun found n => found.insert n) found ↔ n ∈ ns ∨ n ∈ found := by
  induction ns generalizing found with
  | nil => simp
  | cons k ns ih =>
    rw [List.foldl_cons, ih, List.mem_insert_iff, List.mem_cons]
    tauto

theorem mem_boundaries {n : Nat} :
    n ∈ p.boundaries ↔ ∃ pc i, p.at? pc = some i ∧ n ∈ boundariesOf i := by
  have hfold : ∀ (is : List Instr) (found : List Nat),
      n ∈ is.foldl (fun found i =>
        (boundariesOf i).foldl (fun found n => found.insert n) found) found ↔
        (∃ i ∈ is, n ∈ boundariesOf i) ∨ n ∈ found := by
    intro is
    induction is with
    | nil => simp
    | cons i is ih =>
      intro found
      rw [List.foldl_cons, ih, mem_foldl_insert]
      simp only [List.mem_cons, exists_eq_or_imp]
      exact or_left_comm.trans or_assoc.symm
  have hat : ∀ i, i ∈ p.instrs.toList ↔ ∃ pc, p.at? pc = some i := fun i => by
    simp [at?, List.mem_iff_getElem?]
  rw [boundaries, hfold, or_iff_left List.not_mem_nil]
  simp only [hat]
  constructor
  · rintro ⟨i, ⟨pc, hi⟩, hn⟩
    exact ⟨pc, i, hi, hn⟩
  · rintro ⟨pc, i, hi, hn⟩
    exact ⟨i, ⟨pc, hi⟩, hn⟩

theorem mem_letters : b ∈ p.letters ↔ b.toNat = 0 ∨ b.toNat ∈ p.boundaries := by
  simp only [letters, List.mem_map, List.mem_filter, List.mem_range, Bool.or_eq_true,
    decide_eq_true_eq, List.contains_iff_mem]
  constructor
  · rintro ⟨n, ⟨hlt, hn⟩, rfl⟩
    simpa [Nat.mod_eq_of_lt hlt] using hn
  · intro hb
    exact ⟨b.toNat, ⟨b.toNat_lt, hb⟩, by simp⟩

theorem exists_letter (p : Program) (b : UInt8) : ∃ a ∈ p.letters, a.toNat ≤ b.toNat ∧
    ∀ n ∈ p.boundaries, n ≤ a.toNat ∨ b.toNat < n := by
  have hnat : ∀ n < 256, ∃ a : UInt8, a ∈ p.letters ∧ a.toNat ≤ n ∧
      ∀ k ∈ p.boundaries, k ≤ a.toNat ∨ n < k := by
    intro n
    induction n with
    | zero =>
      intro _
      exact ⟨0, mem_letters.mpr (Or.inl rfl), Nat.le_refl 0, fun k _ => by
        rw [show (0 : UInt8).toNat = 0 from rfl]
        omega⟩
    | succ n ih =>
      intro hlt
      by_cases hn : n + 1 ∈ p.boundaries
      · have hof : (UInt8.ofNat (n + 1)).toNat = n + 1 := by simpa using Nat.mod_eq_of_lt hlt
        refine ⟨UInt8.ofNat (n + 1), mem_letters.mpr (Or.inr (by rwa [hof])), by omega,
          fun k _ => ?_⟩
        omega
      · obtain ⟨a, ha, hle, hk⟩ := ih (by omega)
        refine ⟨a, ha, by omega, fun k hmem => ?_⟩
        have hne : k ≠ n + 1 := fun h => hn (h ▸ hmem)
        have := hk k hmem
        omega
  obtain ⟨a, ha, hle, hk⟩ := hnat b.toNat b.toNat_lt
  exact ⟨a, ha, hle, hk⟩

section Told

variable {a : UInt8} (hle : a.toNat ≤ b.toNat) (hk : ∀ n ∈ p.boundaries, n ≤ a.toNat ∨ b.toNat < n)
include hle hk

theorem read?_eq_of_letter (pc : Nat) : p.read? a pc = p.read? b pc := by
  cases hi : p.at? pc with
  | none => simp [read?, hi]
  | some i =>
    cases i with
    | byte set next =>
      have hset : set.contains a.toNat = set.contains b.toNat := by
        rw [Bool.eq_iff_iff, Intervals.contains_iff, Intervals.contains_iff]
        refine exists_congr fun j => and_congr_right fun hj => ?_
        have hlo := hk j.lo (mem_boundaries.mpr ⟨pc, _, hi,
          List.mem_flatMap.mpr ⟨j, hj, List.mem_cons_self⟩⟩)
        have hhi := hk (j.hi + 1) (mem_boundaries.mpr ⟨pc, _, hi,
          List.mem_flatMap.mpr ⟨j, hj, by simp⟩⟩)
        rw [Interval.contains_iff, Interval.contains_iff]
        omega
      rw [read?_eq hi, read?_eq hi, hset]
    | _ => rw [read?_eq_none hi (by simp), read?_eq_none hi (by simp)]

theorem sameEdge_of_letter : p.SameEdge (Edge.ofByte a) (Edge.ofByte b) := by
  rintro l ⟨pc, next, hi⟩ x
  have hmark : ∀ n ∈ boundariesOf (.look l next), n ≤ a.toNat ∨ b.toNat < n := fun n hn =>
    hk n (mem_boundaries.mpr ⟨pc, _, hi, hn⟩)
  -- each kind of condition names the bytes at which the edge that it sees can change
  cases l with
  | textStart => simp [Look.holds]
  | textEnd => simp [Look.holds]
  | lineStart crlf =>
    have hfeed := Edge.beq_lineFeed_congr hle (hmark 0x0A (by cases crlf <;> simp [boundariesOf]))
      (hmark 0x0B (by cases crlf <;> simp [boundariesOf]))
    cases crlf with
    | false => simp [Look.holds, hfeed]
    | true =>
      have hreturn := Edge.beq_carriageReturn_congr hle (hmark 0x0D (by simp [boundariesOf]))
        (hmark 0x0E (by simp [boundariesOf]))
      simp [Look.holds, hfeed, hreturn, bne]
  | lineEnd crlf =>
    have hfeed := Edge.beq_lineFeed_congr hle (hmark 0x0A (by cases crlf <;> simp [boundariesOf]))
      (hmark 0x0B (by cases crlf <;> simp [boundariesOf]))
    cases crlf with
    | false => simp [Look.holds, hfeed]
    | true =>
      have hreturn := Edge.beq_carriageReturn_congr hle (hmark 0x0D (by simp [boundariesOf]))
        (hmark 0x0E (by simp [boundariesOf]))
      simp [Look.holds, hfeed, hreturn, bne]
  | wordEdge kind unicode =>
    have hword : (Edge.ofByte a).isWord = (Edge.ofByte b).isWord := by
      simp only [boundariesOf, List.mem_cons, List.not_mem_nil, or_false, forall_eq_or_imp,
        forall_eq] at hmark
      rw [Edge.isWord_ofByte, Edge.isWord_ofByte, Bool.eq_iff_iff, Edge.isWordByte_iff,
        Edge.isWordByte_iff]
      omega
    simp only [Look.holds, hword, and_self]

end Told

theorem exists_sameByte_letter (p : Program) (b : UInt8) : ∃ a ∈ p.letters, p.SameByte a b := by
  obtain ⟨a, ha, hle, hk⟩ := exists_letter p b
  exact ⟨a, ha, read?_eq_of_letter hle hk, sameEdge_of_letter hle hk⟩

theorem exists_run_letters {s t : Subset} (h : p.SameState s t) (w : List UInt8) :
    ∃ v : List UInt8, (∀ a ∈ v, a ∈ p.letters) ∧ v.length = w.length ∧
      p.SameState (w.foldl p.step s) (v.foldl p.step t) := by
  induction w generalizing s t with
  | nil => exact ⟨[], by simp, rfl, h⟩
  | cons b w ih =>
    obtain ⟨a, ha, hab⟩ := p.exists_sameByte_letter b
    obtain ⟨v, hv, hlen, hsame⟩ := ih (h.step hab.symm)
    refine ⟨a :: v, ?_, by simp [hlen], hsame⟩
    intro c hc
    rcases List.mem_cons.mp hc with rfl | hc
    · exact ha
    · exact hv c hc

end Letters

def machine (p : Program) : Machine Subset := ⟨p.step, p.accepts, Subset.dead, Subset.key⟩

theorem machine_sinks (p : Program) : p.machine.Sinks := ⟨dead_step, accepts_of_dead⟩

theorem machine_key_injective (p : Program) : Function.Injective p.machine.key :=
  fun _ _ h => Subset.key_inj.mp h

/-- Some text leads on to a state that accepts exactly when some text of letters does. -/
theorem leadsOn_iff (s : Subset) : p.machine.LeadsOn p.letters s ↔
    ∃ w : List UInt8, w ≠ [] ∧ p.accepts (w.foldl p.step s) = true := by
  constructor
  · rintro ⟨w, hw, -, ha⟩
    exact ⟨w, hw, ha⟩
  · rintro ⟨w, hw, ha⟩
    obtain ⟨v, hv, hlen, hsame⟩ := exists_run_letters (.refl s) w
    refine ⟨v, ?_, hv, hsame.accepts.symm.trans ha⟩
    rintro rfl
    exact hw (List.eq_nil_of_length_eq_zero hlen.symm)

end Keypad.Automaton.Program
