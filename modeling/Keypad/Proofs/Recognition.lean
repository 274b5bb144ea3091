import Keypad.Proofs.Spelling
/-!
The program of a form recognizes what the form matches: a thread gets from its first instruction to
its end exactly over those words. This holds whatever decides the conditions, the neighbouring bytes
or the whole characters around a place.
-/
namespace Keypad.Pattern.Form

open Automaton (Conditions passesAt)

def Regular : Form → Prop
  | .literal bs => bs ≠ []
  | .iterate min max _ sub => (∀ m ∈ max, min ≤ m) ∧ sub.Regular
  | .group _ _ sub => sub.Regular
  | .seq a b | .alt a b => a.Regular ∧ b.Regular
  | .empty | .look _ | .bytes _ | .chars _ => True

def MatchesUnder (holds : Conditions) : Form → Between
  | .empty => fun _ word _ => word = []
  | .look l => fun before word after => word = [] ∧ holds before after l = true
  | .literal bs => fun _ word _ => word = bs
  | .bytes s => fun _ word _ => ∃ b : UInt8, s.contains b.toNat = true ∧ word = [b]
  | .chars s =>
    fun _ word _ => ∃ c : Char, s.contains c.toNat = true ∧ word = Text.Utf8.encodeChar c
  | .iterate min max _ sub => Between.times min max (sub.MatchesUnder holds)
  | .group _ _ sub => sub.MatchesUnder holds
  | .seq a b => (a.MatchesUnder holds).append (b.MatchesUnder holds)
  | .alt a b => fun before word after =>
    a.MatchesUnder holds before word after ∨ b.MatchesUnder holds before word after

theorem matches_iterate (min : Nat) (max : Option Nat) (greedy : Bool) (sub : Form) :
    (iterate min max greedy sub).Matches = Between.times min max sub.Matches := rfl

theorem matchesUnder_passesAt (f : Form) : f.MatchesUnder passesAt = f.Matches := by
  induction f with
  | empty | look l | literal bs | bytes s | chars s => rfl
  | iterate min max greedy sub ih => rw [MatchesUnder, ih, matches_iterate]
  | group i name sub ih => rw [MatchesUnder, ih, Matches]
  | seq a b iha ihb => rw [MatchesUnder, iha, ihb, Matches]
  | alt a b iha ihb => rw [MatchesUnder, iha, ihb, Matches]

theorem matchesUnder_congr {f : Form} {holds holds' : Conditions}
    (h : ∀ l ∈ f.looks, ∀ before after, holds before after l = holds' before after l) :
    f.MatchesUnder holds = f.MatchesUnder holds' := by
  induction f with
  | empty | literal bs | bytes s | chars s => rfl
  | look l =>
    funext before word after
    simp only [MatchesUnder, h l (List.mem_singleton_self l)]
  | iterate min max greedy sub ih => rw [MatchesUnder, MatchesUnder, ih h]
  | group i name sub ih => rw [MatchesUnder, MatchesUnder, ih h]
  | seq a b iha ihb =>
    obtain ⟨ha, hb⟩ := List.forall_mem_append.mp h
    rw [MatchesUnder, MatchesUnder, iha ha, ihb hb]
  | alt a b iha ihb =>
    obtain ⟨ha, hb⟩ := List.forall_mem_append.mp h
    rw [MatchesUnder, MatchesUnder, iha ha, ihb hb]

end Keypad.Pattern.Form

namespace Keypad.Automaton

open Keypad.Pattern

namespace Program

variable {p : Program} {holds : Conditions} {pc next : Nat}

theorem Block.form {f : Form} (hf : f.Regular) (hp : p.Holds pc (code f pc next)) :
    p.Block holds pc (pc + codeSize f) next (f.MatchesUnder holds) := by
  induction f generalizing pc next with
  | empty => exact skip hp.head (by simp) (by simp [Instr.branches])
  | look l =>
    have hb : ∀ passes w, w ∈ (Instr.look l next).branches passes ↔ w = next ∧ passes l = true := by
      intro passes w
      simp only [Instr.branches]
      split <;> simp_all
    exact single hp.head (by simp) hb
  | literal bs => exact literal hf hp
  | bytes s => exact byte hp.head
  | chars s => exact (trie hp).congr fun _ word _ => Trie.spells_ofScalars
  | iterate min max greedy sub ih =>
    have hsub : Carries p holds (codeSize sub) (code sub) (sub.MatchesUnder holds) :=
      ⟨length_code sub, fun hp => ih hf.2 hp⟩
    exact iterate hsub hf.1 hp
  | group i name sub ih =>
    have hmark := hp.right.head
    rw [length_code] at hmark
    have hskip : p.Block holds (pc + codeSize sub)
        (pc + codeSize sub + 1) next fun _ word _ => word = [] :=
      skip hmark (by simp) (by simp [Instr.branches])
    refine ((ih hf hp.left).seq hskip (by omega) (by omega)).congr fun before word after => ?_
    change Between.append _ _ before word after ↔ sub.MatchesUnder holds before word after
    constructor
    · rintro ⟨u, _, rfl, hu, rfl⟩
      simpa using hu
    · intro h
      exact ⟨word, [], by simp, by simpa using h, rfl⟩
  | seq a b iha ihb =>
    have hb := hp.right
    rw [length_code] at hb
    rw [codeSize, ← Nat.add_assoc]
    exact (iha hf.1 hp.left).seq (ihb hf.2 hb) (by omega) (by omega)
  | alt a b iha ihb =>
    have hb := hp.tail.right
    rw [length_code] at hb
    have := alt hp.head (iha hf.1 hp.tail.left) (ihb hf.2 hb) (by omega) (by omega)
    rw [codeSize, show pc + (codeSize a + codeSize b + 1) =
      pc + 1 + codeSize a + codeSize b by omega]
    exact this

end Program

section Instructions

structure Common (Q : Instr → Prop) : Prop where
  byte : ∀ set next, Q (.byte set next)
  fork : ∀ first second, Q (.fork first second)
  jump : ∀ next, Q (.jump next)
  mark : ∀ group next, Q (.mark group next)
  stop : Q .stop

variable {Q : Instr → Prop} (hQ : Common Q) {size : Nat} {body : Nat → Nat → Code}
include hQ

theorem Common.choice (greedy : Bool) (into past : Nat) : Q (choice greedy into past) := by
  cases greedy <;> exact hQ.fork _ _

theorem Common.forall_mem_literalCode (pc next : Nat) (bs : List UInt8) :
    ∀ i ∈ literalCode next pc bs, Q i := by
  fun_induction literalCode next pc bs with
  | case1 => simp
  | case2 => exact List.forall_mem_singleton.mpr (hQ.byte _ _)
  | case3 pc b rest hne ih => exact List.forall_mem_cons.mpr ⟨hQ.byte _ _, ih⟩

theorem Common.forall_mem_trie (t : Trie) (pc next : Nat) : ∀ i ∈ t.code pc next, Q i := by
  induction t generalizing pc with
  | none => exact List.forall_mem_singleton.mpr hQ.stop
  | done => exact List.forall_mem_singleton.mpr (hQ.jump _)
  | branch set tail rest ihTail ihRest =>
    simp only [Trie.code]
    split <;> split <;>
      simp only [List.forall_mem_cons, List.forall_mem_append, List.not_mem_nil, false_implies,
        implies_true, and_true, true_and, hQ.byte, hQ.fork] <;>
      first | exact ⟨ihTail _, ihRest _⟩ | exact ihTail _ | exact ihRest _

omit hQ in
theorem forall_mem_copies (h : ∀ pc next, ∀ i ∈ body pc next, Q i) (n pc : Nat) :
    ∀ i ∈ copies size body n pc, Q i := by
  induction n generalizing pc with
  | zero => simp [copies]
  | succ n ih => exact List.forall_mem_append.mpr ⟨h _ _, ih _⟩

theorem Common.forall_mem_options (h : ∀ pc next, ∀ i ∈ body pc next, Q i) (greedy : Bool)
    (n pc next : Nat) :
    ∀ i ∈ options greedy size body next n pc, Q i := by
  induction n generalizing pc with
  | zero => simp [options]
  | succ n ih =>
    exact List.forall_mem_cons.mpr ⟨hQ.choice _ _ _, List.forall_mem_append.mpr ⟨h _ _, ih _⟩⟩

theorem Common.forall_mem_iterateCode (h : ∀ pc next, ∀ i ∈ body pc next, Q i) (min : Nat)
    (max : Option Nat) (greedy consumes : Bool) (pc next : Nat) :
    ∀ i ∈ iterateCode min max greedy consumes size body pc next, Q i := by
  have hplus : ∀ pc next, ∀ i ∈ plus greedy size body pc next, Q i := fun pc next =>
    List.forall_mem_append.mpr ⟨h _ _, List.forall_mem_singleton.mpr (hQ.choice _ _ _)⟩
  unfold iterateCode
  split
  · split_ifs
    · exact List.forall_mem_append.mpr ⟨forall_mem_copies h _ _, hQ.forall_mem_options h _ _ _ _⟩
    · exact List.forall_mem_singleton.mpr (hQ.jump _)
    · exact List.forall_mem_append.mpr ⟨forall_mem_copies h _ _, h _ _⟩
  · split_ifs
    · unfold star
      split_ifs
      · exact List.forall_mem_cons.mpr ⟨hQ.choice _ _ _, h _ _⟩
      · exact List.forall_mem_cons.mpr ⟨hQ.choice _ _ _, hplus _ _⟩
    · exact List.forall_mem_append.mpr ⟨forall_mem_copies h _ _, hplus _ _⟩

theorem Common.forall_mem_code {f : Form} (hlook : ∀ l ∈ f.looks, ∀ next, Q (.look l next))
    (pc next : Nat) :
    ∀ i ∈ code f pc next, Q i := by
  induction f generalizing pc next with
  | empty => exact List.forall_mem_singleton.mpr (hQ.jump _)
  | look l => exact List.forall_mem_singleton.mpr (hlook l (List.mem_singleton_self l) _)
  | literal bs => exact hQ.forall_mem_literalCode pc next bs
  | bytes s => exact List.forall_mem_singleton.mpr (hQ.byte _ _)
  | chars s => exact hQ.forall_mem_trie _ pc next
  | iterate min max greedy sub ih =>
    exact hQ.forall_mem_iterateCode (ih hlook) min max greedy _ pc next
  | group i name sub ih =>
    exact List.forall_mem_append.mpr ⟨ih hlook _ _, List.forall_mem_singleton.mpr (hQ.mark _ _)⟩
  | seq a b iha ihb =>
    obtain ⟨ha, hb⟩ := List.forall_mem_append.mp hlook
    exact List.forall_mem_append.mpr ⟨iha ha _ _, ihb hb _ _⟩
  | alt a b iha ihb =>
    obtain ⟨ha, hb⟩ := List.forall_mem_append.mp hlook
    exact List.forall_mem_cons.mpr
      ⟨hQ.fork _ _, List.forall_mem_append.mpr ⟨iha ha _ _, ihb hb _ _⟩⟩

end Instructions

theorem accept_not_mem_code (f : Form) (pc next : Nat) : Instr.accept ∉ code f pc next := by
  have hcommon : Common (· ≠ .accept) := ⟨by simp, by simp, by simp, by simp, by simp⟩
  exact fun hmem => hcommon.forall_mem_code (by simp) pc next _ hmem rfl

namespace Program

variable {f : Form} {holds : Conditions}

theorem holds_ofForm (f : Form) : (ofForm f).Holds 0 (code f 0 (codeSize f) ++ [.accept]) := by
  intro i hi
  simp only [ofForm, at?, Nat.zero_add, List.getElem?_toArray]
  exact List.getElem?_eq_getElem hi

theorem isAccept_iff {p : Program} {pc : Nat} : p.isAccept pc = true ↔ p.at? pc = some .accept := by
  unfold isAccept
  split <;> simp_all

theorem isAccept_ofForm {pc : Nat} : (ofForm f).isAccept pc = true ↔ pc = codeSize f := by
  have hlen := length_code f 0 (codeSize f)
  have hat : ∀ pc, (ofForm f).at? pc = (code f 0 (codeSize f) ++ [Instr.accept])[pc]? :=
    fun pc => by
    simp [ofForm, at?]
  rw [isAccept_iff, hat]
  constructor
  · intro h
    obtain ⟨hlt, heq⟩ := List.getElem?_eq_some_iff.mp h
    rw [List.length_append, hlen] at hlt
    by_contra hne
    rw [List.getElem_append_left (by simp at hlt; omega)] at heq
    exact accept_not_mem_code f 0 (codeSize f) (heq ▸ List.getElem_mem _)
  · rintro rfl
    rw [List.getElem?_append_right (by omega), hlen]
    simp

theorem runs_ofForm (hf : f.Regular) {before word after : List UInt8} :
    (∃ n pc, (ofForm f).Runs holds n 0 before word after pc ∧ (ofForm f).isAccept pc = true) ↔
      f.MatchesUnder holds before word after := by
  have hblock : (ofForm f).Block holds 0 (0 + codeSize f) (codeSize f) (f.MatchesUnder holds) :=
    .form hf (holds_ofForm f).left
  have haccept : (ofForm f).at? (codeSize f) = some .accept :=
    isAccept_iff.mp (isAccept_ofForm.mpr rfl)
  rw [Nat.zero_add] at hblock
  constructor
  · rintro ⟨n, pc, r, hpc⟩
    obtain rfl := isAccept_ofForm.mp hpc
    obtain ⟨u, v, k, rfl, hu, -, r⟩ := hblock.leaves r (Or.inr (Nat.le_refl _))
    cases r with
    | stay => simpa using hu
    | skip hb _ => simp [branches_eq haccept, Instr.branches] at hb
    | read hb _ => rw [read?_eq_none haccept (by simp)] at hb; cases hb
  · intro h
    obtain ⟨n, r⟩ := hblock.enters h
    exact ⟨n, _, r, isAccept_ofForm.mpr rfl⟩

end Program

end Keypad.Automaton
